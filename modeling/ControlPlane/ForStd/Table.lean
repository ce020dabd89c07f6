import Mathlib.Algebra.BigOperators.Group.List.Basic
import Mathlib.Algebra.Order.BigOperators.Group.List
import Mathlib.Algebra.Order.Ring.Int

/-!
# Tables as lists of rows

What an audit table needs: `INSERT OR IGNORE` under a uniqueness constraint,
and sums over the rows that satisfy a condition.
-/

namespace Table

variable {α : Type}

/-! ## `INSERT OR IGNORE` -/

/-- Append the row unless some stored row conflicts with it; the flag says
    whether a row was written. -/
def insertOrIgnore (conflict : α → α → Bool) (row : α) (rows : List α) : List α × Bool :=
  if rows.any (conflict row) then (rows, false) else (rows ++ [row], true)

/-- A row that conflicts with one that is there is ignored. -/
theorem insertOrIgnore_of_any {conflict : α → α → Bool} {row : α} {rows : List α}
    (h : rows.any (conflict row) = true) :
    insertOrIgnore conflict row rows = (rows, false) := by
  rw [insertOrIgnore, if_pos h]

/-- A row that conflicts with none is appended. -/
theorem insertOrIgnore_of_not_any {conflict : α → α → Bool} {row : α} {rows : List α}
    (h : rows.any (conflict row) = false) :
    insertOrIgnore conflict row rows = (rows ++ [row], true) := by
  rw [insertOrIgnore, if_neg (by simp [h])]

/-- An ignored insert leaves the table, a landed one appends its row and found
    no conflict. -/
theorem insertOrIgnore_cases (conflict : α → α → Bool) (row : α) (rows : List α) :
    (insertOrIgnore conflict row rows = (rows, false) ∧ ∃ r ∈ rows, conflict row r = true) ∨
    (insertOrIgnore conflict row rows = (rows ++ [row], true) ∧
      ∀ r ∈ rows, conflict row r = false) := by
  cases h : rows.any (conflict row) with
  | true => exact .inl ⟨insertOrIgnore_of_any h, by simpa using h⟩
  | false => exact .inr ⟨insertOrIgnore_of_not_any h, by simpa using h⟩

/-! ## Sums over rows -/

/-- `SELECT SUM(f) FROM rows WHERE p`, zero on no rows. -/
def sumWhere (p : α → Bool) (f : α → Int) (rows : List α) : Int :=
  ((rows.filter p).map f).sum

/-- An empty table sums to nothing. -/
@[simp] theorem sumWhere_nil (p : α → Bool) (f : α → Int) : sumWhere p f [] = 0 := rfl

/-- Two tables sum to the sum of both. -/
@[simp] theorem sumWhere_append (p : α → Bool) (f : α → Int) (xs ys : List α) :
    sumWhere p f (xs ++ ys) = sumWhere p f xs + sumWhere p f ys := by
  simp [sumWhere]

/-- A row counts where it is selected. -/
@[simp] theorem sumWhere_cons (p : α → Bool) (f : α → Int) (x : α) (xs : List α) :
    sumWhere p f (x :: xs) = (if p x then f x else 0) + sumWhere p f xs := by
  by_cases h : p x <;> simp [sumWhere, h]

/-- Rows worth nothing sum to nothing. -/
theorem sumWhere_eq_zero {p : α → Bool} {f : α → Int} {xs : List α}
    (h : ∀ x ∈ xs, p x = true → f x = 0) : sumWhere p f xs = 0 := by
  induction xs with
  | nil => rfl
  | cons x xs ih =>
    rw [sumWhere_cons, ih (fun y hy => h y (by simp [hy]))]
    -- the first row is selected and worth nothing, or not selected
    by_cases hp : p x = true
    · simp [hp, h x (by simp) hp]
    · simp [hp]

/-- The sum depends on which rows are selected and what these are worth. -/
theorem sumWhere_congr {p q : α → Bool} {f g : α → Int} {xs : List α}
    (hp : ∀ x ∈ xs, p x = q x) (hf : ∀ x ∈ xs, q x = true → f x = g x) :
    sumWhere p f xs = sumWhere q g xs := by
  induction xs with
  | nil => rfl
  | cons x xs ih =>
    rw [sumWhere_cons, sumWhere_cons, hp x (by simp),
      ih (fun y hy => hp y (by simp [hy])) (fun y hy => hf y (by simp [hy]))]
    -- the first row is selected on both sides, or on neither
    by_cases hq : q x = true
    · simp [hq, hf x (by simp) hq]
    · simp [hq]

/-- A sum of two amounts is the sum of each. -/
theorem sumWhere_add (p : α → Bool) (f g : α → Int) (xs : List α) :
    sumWhere p (fun x => f x + g x) xs = sumWhere p f xs + sumWhere p g xs := by
  induction xs with
  | nil => rfl
  | cons x xs ih =>
    rw [sumWhere_cons, sumWhere_cons, sumWhere_cons, ih]
    split <;> omega

end Table
