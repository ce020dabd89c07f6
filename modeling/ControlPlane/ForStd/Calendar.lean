import Mathlib.Data.Int.Basic
import Mathlib.Order.Monotone.Basic

/-!
# Days, years and months

The proleptic Gregorian calendar as ECMAScript's `Date` computes it: a day is counted from
the epoch, a year from its first day, a month from the year's. Months are numbered through
the years, so that the months of all time are one sequence of first days.

## Key results

- `yearFromDay_spec`: a day lies in its year
- `firstDay_lt_iff`: months follow each other
- `monthFromDay_spec` / `monthFromDay_unique`: a day lies in one month
-/

namespace Calendar

/-! ## Years -/

/-- The day of the first of January of a year. -/
def dayFromYear (y : Int) : Int :=
  365 * (y - 1970) + (y - 1969) / 4 - (y - 1901) / 100 + (y - 1601) / 400

/-- A leap year of the Gregorian calendar. -/
def isLeap (y : Int) : Bool := y % 4 = 0 ∧ (y % 100 ≠ 0 ∨ y % 400 = 0)

/-- The day a leap year has more. -/
def leapDay (leap : Bool) : Int := if leap then 1 else 0

theorem dayFromYear_succ (y : Int) :
    dayFromYear (y + 1) = dayFromYear y + 365 + leapDay (isLeap y) := by
  simp only [dayFromYear, isLeap, leapDay, decide_eq_true_eq]
  split <;> omega

/-- The year a day lies in: the average year comes within one of it. -/
def yearFromDay (d : Int) : Int :=
  let y := 1970 + 400 * d / 146097
  if d < dayFromYear y then y - 1 else if dayFromYear (y + 1) ≤ d then y + 1 else y

theorem yearFromDay_spec (d : Int) :
    dayFromYear (yearFromDay d) ≤ d ∧ d < dayFromYear (yearFromDay d + 1) := by
  -- a year's first day is its share of 400 years, up to two days
  have hshare (y : Int) : 146097 * (y - 1970) - 506 ≤ 400 * dayFromYear y ∧
      400 * dayFromYear y ≤ 146097 * (y - 1970) + 589 := by
    unfold dayFromYear
    omega
  unfold yearFromDay
  dsimp only
  generalize hq : 400 * d / 146097 = q
  have hdown := hshare (1970 + q - 1)
  have hup := hshare (1970 + q + 1 + 1)
  split
  · rename_i hlt
    rw [Int.sub_add_cancel]
    omega
  · split
    · omega
    · omega

/-! ## Months -/

/-- Days of a year before its month `m`, which counts from zero. -/
def daysBefore (leap : Bool) (m : Int) : Int :=
  if m ≤ 0 then 0 else if m = 1 then 31 else if m = 2 then 59 + leapDay leap
  else if m = 3 then 90 + leapDay leap else if m = 4 then 120 + leapDay leap
  else if m = 5 then 151 + leapDay leap else if m = 6 then 181 + leapDay leap
  else if m = 7 then 212 + leapDay leap else if m = 8 then 243 + leapDay leap
  else if m = 9 then 273 + leapDay leap else if m = 10 then 304 + leapDay leap
  else if m = 11 then 334 + leapDay leap else 365 + leapDay leap

/-- The first of the months from `m` on, and `more` of them at most, that ends after day `k`. -/
def monthEndingAfter (leap : Bool) (k : Int) : Nat → Int → Int
  | 0, m => m
  | more + 1, m =>
    if k < daysBefore leap (m + 1) then m else monthEndingAfter leap k more (m + 1)

/-- The month of a day within its year. -/
def monthWithinYear (leap : Bool) (k : Int) : Int := monthEndingAfter leap k 11 0

theorem monthEndingAfter_spec (leap : Bool) (k : Int) (more : Nat) (m : Int)
    (h : daysBefore leap m ≤ k) (h' : k < daysBefore leap (m + more + 1)) :
    (m ≤ monthEndingAfter leap k more m ∧ monthEndingAfter leap k more m ≤ m + more) ∧
    daysBefore leap (monthEndingAfter leap k more m) ≤ k ∧
    k < daysBefore leap (monthEndingAfter leap k more m + 1) := by
  induction more generalizing m with
  | zero =>
    simp only [monthEndingAfter, Int.ofNat_zero, Int.add_zero] at h' ⊢
    omega
  | succ more ih =>
    rw [monthEndingAfter]
    split
    next hlt => omega
    next hge =>
      have hstop : m + 1 + more + 1 = m + (more + 1 : Nat) + 1 := by omega
      have hrest := ih (m + 1) (by omega) (by rw [hstop]; exact h')
      omega

/-- A day of the year lies in its month. -/
theorem monthWithinYear_spec (leap : Bool) {k : Int} (h : 0 ≤ k) (h' : k < 365 + leapDay leap) :
    (0 ≤ monthWithinYear leap k ∧ monthWithinYear leap k < 12) ∧
    daysBefore leap (monthWithinYear leap k) ≤ k ∧
    k < daysBefore leap (monthWithinYear leap k + 1) := by
  have hspec := monthEndingAfter_spec leap k 11 0 h h'
  unfold monthWithinYear
  omega

/-- The first day of month `n`, where month `12 * y + m` is month `m` of year `y`:
    `MakeDay(y, m, 1)`. -/
def firstDay (n : Int) : Int := dayFromYear (n / 12) + daysBefore (isLeap (n / 12)) (n % 12)

theorem daysBefore_lt_succ (leap : Bool) {m : Int} (h : 0 ≤ m) (h' : m < 12) :
    daysBefore leap m < daysBefore leap (m + 1) := by
  have hall : ∀ leap : Bool, ∀ m : Fin 12,
      daysBefore leap ((m : Nat) : Int) < daysBefore leap ((m : Nat) + 1 : Int) := by decide
  obtain ⟨n, rfl⟩ := Int.eq_ofNat_of_zero_le h
  exact hall leap ⟨n, by omega⟩

/-- The month after December is the January of the next year. -/
theorem firstDay_succ (n : Int) :
    firstDay (n + 1) = dayFromYear (n / 12) + daysBefore (isLeap (n / 12)) (n % 12 + 1) := by
  unfold firstDay
  rcases Int.lt_or_le (n % 12) 11 with h | h
  · rw [show (n + 1) / 12 = n / 12 by omega, show (n + 1) % 12 = n % 12 + 1 by omega]
  · have hmonth : n % 12 = 11 := by omega
    have hyear (leap : Bool) : daysBefore leap (11 + 1) = 365 + leapDay leap := rfl
    have hzero (leap : Bool) : daysBefore leap 0 = 0 := rfl
    rw [show (n + 1) / 12 = n / 12 + 1 by omega, show (n + 1) % 12 = 0 by omega, hmonth,
      dayFromYear_succ, hzero, hyear]
    omega

theorem firstDay_lt_iff {n n' : Int} : firstDay n < firstDay n' ↔ n < n' := by
  have hmono : StrictMono firstDay := by
    refine strictMono_int_of_lt_succ fun n => ?_
    have hlt := daysBefore_lt_succ (isLeap (n / 12)) (m := n % 12) (by omega) (by omega)
    rw [firstDay_succ, firstDay]
    omega
  exact hmono.lt_iff_lt

/-- The month a day lies in. -/
def monthFromDay (d : Int) : Int :=
  let y := yearFromDay d
  12 * y + monthWithinYear (isLeap y) (d - dayFromYear y)

theorem monthFromDay_cases (d : Int) :
    monthFromDay d / 12 = yearFromDay d ∧
    firstDay (monthFromDay d) ≤ d ∧ d < firstDay (monthFromDay d + 1) := by
  obtain ⟨hle, hlt⟩ := yearFromDay_spec d
  rw [dayFromYear_succ] at hlt
  -- the year bounds the day, and its months split it up
  obtain ⟨hm, hfirst, hnext⟩ := monthWithinYear_spec (isLeap (yearFromDay d))
    (k := d - dayFromYear (yearFromDay d)) (by omega) (by omega)
  have hyear : monthFromDay d / 12 = yearFromDay d := by
    unfold monthFromDay
    dsimp only
    omega
  have hmonth : monthFromDay d % 12 =
      monthWithinYear (isLeap (yearFromDay d)) (d - dayFromYear (yearFromDay d)) := by
    unfold monthFromDay
    dsimp only
    omega
  rw [firstDay_succ, firstDay, hyear, hmonth]
  omega

/-- A month is one of its year. -/
theorem monthFromDay_div (d : Int) : monthFromDay d / 12 = yearFromDay d := (monthFromDay_cases d).1

/-- A day lies in its month. -/
theorem monthFromDay_spec (d : Int) :
    firstDay (monthFromDay d) ≤ d ∧ d < firstDay (monthFromDay d + 1) := (monthFromDay_cases d).2

/-- And in no other. -/
theorem monthFromDay_unique {n d : Int} (h : firstDay n ≤ d) (h' : d < firstDay (n + 1)) :
    monthFromDay d = n := by
  obtain ⟨hle, hlt⟩ := monthFromDay_spec d
  have h₁ : monthFromDay d < n + 1 := firstDay_lt_iff.mp (by omega)
  have h₂ : n < monthFromDay d + 1 := firstDay_lt_iff.mp (by omega)
  omega

end Calendar
