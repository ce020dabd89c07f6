import ControlPlane.ForStd.Table
import Mathlib.Logic.Function.Basic
import Mathlib.Logic.Relation
import Mathlib.Tactic.Ext

/-!
# An allowance per period before a prepaid balance

A meter takes each charge from the allowance of its period first and from a
prepaid balance second. It learns what a use costs only after it has let the use
through, so it lets one through while either pool has room, whatever it will cost.

`Purse P` is such a meter with periods of any type `P`. It keeps the charges it
took in their order, and beside each allowance what the charges of its period took
from the balance.

## Key results

- `Since.step` / `since_of_reach`: what any number of steps preserves
- `Since.charges_lt`: the charges of a period exceed both pools by less than the last one
- `take_position_le`: a charge that does not overdraw what is overdrawn already
-/

namespace TwoPools

/-- The two pools and the charges they took. -/
@[ext]
structure Purse (P : Type) where
  credit : Int
  spent : Int
  /-- How much of each period's allowance is used. -/
  used : P → Int
  /-- What the charges of each period took from the balance. -/
  overflow : P → Int
  /-- The charges, oldest first. -/
  charges : List (P × Int)

variable {P : Type} [DecidableEq P]

/-- The charges of a period, summed. -/
def chargedIn (k : P) (charges : List (P × Int)) : Int :=
  Table.sumWhere (fun c => c.1 = k) (·.2) charges

/-- The last charge of a period. -/
def lastIn (k : P) (charges : List (P × Int)) : Option Int :=
  ((charges.filter (fun c => c.1 = k)).map (·.2)).getLast?

/-- What was charged in two lists of charges. -/
@[simp] theorem chargedIn_append (k : P) (xs ys : List (P × Int)) :
    chargedIn k (xs ++ ys) = chargedIn k xs + chargedIn k ys := by
  simp [chargedIn]

/-- A charge counts in its own period. -/
theorem chargedIn_singleton (k l : P) (c : Int) :
    chargedIn k [(l, c)] = if l = k then c else 0 := by
  simp [chargedIn]

/-- No charge, no last one. -/
@[simp] theorem lastIn_nil (k : P) : lastIn k [] = none := rfl

/-- The last charge of a period is the newest made in it. -/
theorem lastIn_append_singleton (k l : P) (c : Int) (xs : List (P × Int)) :
    lastIn k (xs ++ [(l, c)]) = if l = k then some c else lastIn k xs := by
  by_cases h : l = k <;> simp [lastIn, h]

/-- A last charge of the newer ones is the last of all. -/
theorem lastIn_append {k : P} {xs ys : List (P × Int)} {c : Int} (h : lastIn k ys = some c) :
    lastIn k (xs ++ ys) = some c := by
  simp only [lastIn] at h ⊢
  rw [List.filter_append, List.map_append, List.getLast?_append, h]
  rfl

/-- A period without a last charge was charged nothing. -/
theorem chargedIn_of_lastIn_eq_none {k : P} {xs : List (P × Int)} (h : lastIn k xs = none) :
    chargedIn k xs = 0 := by
  simp only [lastIn, List.getLast?_eq_none_iff, List.map_eq_nil_iff] at h
  simp only [chargedIn, Table.sumWhere, h]
  rfl

namespace Purse

/-- Money is added to the balance. -/
def grant (n : Int) (p : Purse P) : Purse P :=
  { p with credit := p.credit + n }

/-- Some pool has room for a use in the period. -/
def Open (included : Int) (k : P) (p : Purse P) : Prop :=
  p.used k < included ∨ p.spent < p.credit

/-- What a charge takes from the allowance of its period. -/
def fromAllowance (included : Int) (k : P) (c : Int) (p : Purse P) : Int :=
  min c (max 0 (included - p.used k))

/-- Take a charge: from the allowance as far as it goes, the rest from the balance. -/
def take (included : Int) (k : P) (c : Int) (p : Purse P) : Purse P :=
  let part := p.fromAllowance included k c
  { p with
    spent := p.spent + (c - part)
    used := Function.update p.used k (p.used k + part)
    overflow := Function.update p.overflow k (p.overflow k + (c - part))
    charges := p.charges ++ [(k, c)] }

end Purse

/-- One step of the meter: a top-up, or a use that found room, whose charge is
    taken with top-ups around it. -/
inductive Step (included : Int) : Purse P → Purse P → Prop
  | grant (p : Purse P) (n : Int) (hn : 0 ≤ n) : Step included p (p.grant n)
  | take (p : Purse P) (k : P) (c n : Int) (hopen : p.Open included k) (hc : 0 ≤ c) (hn : 0 ≤ n) :
      Step included p ((p.take included k c).grant n)

/-- Any number of steps. -/
abbrev Reach (included : Int) : Purse P → Purse P → Prop :=
  Relation.ReflTransGen (Step included)

/-! ## What steps preserve -/

/-- What holds of a purse `p` that some steps have led to from `g`. -/
structure Since (included : Int) (g p : Purse P) : Prop where
  credit_le : g.credit ≤ p.credit
  used_mono : ∀ k, g.used k ≤ p.used k
  used_le : ∀ k, p.used k ≤ included
  overflow_mono : ∀ k, g.overflow k ≤ p.overflow k
  /-- The balance is only touched once the allowance of the period is used up. -/
  overflow_full : ∀ k, g.overflow k < p.overflow k → p.used k = included
  overflow_le : ∀ k, p.overflow k - g.overflow k ≤ p.spent - g.spent
  /-- The charges taken since then, their sum per period, and how far that can go. -/
  charges_eq : ∃ taken, p.charges = g.charges ++ taken ∧ ∀ k,
    chargedIn k taken = (p.used k - g.used k) + (p.overflow k - g.overflow k) ∧
    ∀ c, lastIn k taken = some c → chargedIn k taken <
      (included - g.used k) + max 0 (g.credit - g.spent) + (p.credit - g.credit) + c

variable {included : Int}

/-- A purse within its allowance, since itself. -/
theorem Since.refl {p : Purse P} (h : ∀ k, p.used k ≤ included) : Since included p p where
  credit_le := le_rfl
  used_mono _ := le_rfl
  used_le := h
  overflow_mono _ := le_rfl
  overflow_full _ hk := absurd hk (lt_irrefl _)
  overflow_le _ := by omega
  charges_eq := ⟨[], by simp, fun k => ⟨by simp [chargedIn], fun c hc => by simp at hc⟩⟩

/-- A grant keeps what has held since. -/
theorem Since.grant {g p : Purse P} (h : Since included g p) {n : Int} (hn : 0 ≤ n) :
    Since included g (p.grant n) := by
  obtain ⟨taken, htaken, hsum⟩ := h.charges_eq
  have hcredit : (p.grant n).credit = p.credit + n := rfl
  refine ⟨?_, h.used_mono, h.used_le, h.overflow_mono, h.overflow_full, h.overflow_le, taken,
    htaken, fun k => ⟨(hsum k).1, fun c hc => ?_⟩⟩
  · have := h.credit_le
    omega
  · have := (hsum k).2 c hc
    omega

/-- While a pool has room, the charges of a period are below what the two pools held. -/
theorem Since.charged_lt_of_open {g p : Purse P} (h : Since included g p) {k : P}
    (hopen : p.Open included k) :
    (p.used k - g.used k) + (p.overflow k - g.overflow k) <
      (included - g.used k) + max 0 (g.credit - g.spent) + (p.credit - g.credit) := by
  have hcredit := h.credit_le
  cases hopen with
  | inl hroom =>
    -- the allowance has room, so the period took nothing from the balance
    have hfull := h.overflow_full k
    have hmono := h.overflow_mono k
    omega
  | inr hroom =>
    have hle := h.overflow_le k
    have hused := h.used_le k
    omega

omit [DecidableEq P] in
/-- Where the allowance is not overdrawn, a charge takes what is left of it at most. -/
theorem fromAllowance_eq {p : Purse P} {k : P} (h : p.used k ≤ included) (c : Int) :
    p.fromAllowance included k c = min c (included - p.used k) := by
  simp only [Purse.fromAllowance]
  omega

/-- A charge takes the allowance first. -/
theorem take_used {p : Purse P} {k : P} (h : p.used k ≤ included) (c : Int) (l : P) :
    (p.take included k c).used l =
      p.used l + if l = k then min c (included - p.used k) else 0 := by
  simp only [Purse.take, Function.update_apply, fromAllowance_eq h]
  by_cases hl : l = k
  · subst hl
    simp
  · simp [hl]

/-- What the allowance does not cover overflows. -/
theorem take_overflow {p : Purse P} {k : P} (h : p.used k ≤ included) (c : Int) (l : P) :
    (p.take included k c).overflow l =
      p.overflow l + if l = k then c - min c (included - p.used k) else 0 := by
  simp only [Purse.take, Function.update_apply, fromAllowance_eq h]
  by_cases hl : l = k
  · subst hl
    simp
  · simp [hl]

/-- And is spent of the credit. -/
theorem take_spent {p : Purse P} {k : P} (h : p.used k ≤ included) (c : Int) :
    (p.take included k c).spent = p.spent + (c - min c (included - p.used k)) := by
  simp only [Purse.take, fromAllowance_eq h]

/-- A charge taken while open keeps what has held since. -/
theorem Since.take {g p : Purse P} (h : Since included g p) {k : P} {c : Int}
    (hopen : p.Open included k) (hc : 0 ≤ c) : Since included g (p.take included k c) := by
  obtain ⟨taken, htaken, hsum⟩ := h.charges_eq
  have hk := h.used_le k
  have hlt := h.charged_lt_of_open hopen
  have hcredit : (p.take included k c).credit = p.credit := rfl
  constructor
  case credit_le => exact h.credit_le
  -- `used` and `overflow` change at `k` only, where one of them takes the charge
  case used_mono =>
    intro l
    have hl := h.used_mono l
    rw [take_used hk]
    split <;> omega
  case used_le =>
    intro l
    have hl := h.used_le l
    rw [take_used hk]
    by_cases hlk : l = k
    · subst hlk
      rw [if_pos rfl]
      omega
    · rw [if_neg hlk]
      omega
  case overflow_mono =>
    intro l
    have hl := h.overflow_mono l
    rw [take_overflow hk]
    split <;> omega
  -- what overflows at `k` leaves the pool full there
  case overflow_full =>
    intro l hl
    have hfull := h.overflow_full l
    rw [take_overflow hk] at hl
    rw [take_used hk]
    by_cases hlk : l = k
    · subst hlk
      rw [if_pos rfl] at hl ⊢
      omega
    · rw [if_neg hlk] at hl ⊢
      omega
  case overflow_le =>
    intro l
    have hl := h.overflow_le l
    rw [take_overflow hk, take_spent hk]
    split <;> omega
  case charges_eq =>
    refine ⟨taken ++ [(k, c)], ?_, fun l => ?_⟩
    · show p.charges ++ [(k, c)] = _
      rw [htaken, List.append_assoc]
    · obtain ⟨heq, hlast⟩ := hsum l
      rw [chargedIn_append, chargedIn_singleton, lastIn_append_singleton, take_used hk,
        take_overflow hk, hcredit]
      by_cases hlk : l = k
      · subst hlk
        simp only [if_true, Option.some.injEq, forall_eq']
        omega
      · simp only [hlk, Ne.symm hlk, if_false]
        exact ⟨by omega, fun d hd => by simpa using hlast d hd⟩

/-- One step. -/
theorem Since.step {g p p' : Purse P} (h : Since included g p) (hstep : Step included p p') :
    Since included g p' := by
  cases hstep with
  | grant n hn => exact h.grant hn
  | take k c n hopen hc hn => exact (h.take hopen hc).grant hn

/-- Any number of steps. -/
theorem since_of_reach {g p : Purse P} (hg : ∀ k, g.used k ≤ included)
    (h : Reach included g p) : Since included g p := by
  induction h with
  | refl => exact .refl hg
  | tail _ hstep ih => exact ih.step hstep

/-! ## The overdraft -/

/-- A charge that the allowance covers, or that finds nothing overdrawn, keeps the overdraft
    within any bound that is no less than the charge. -/
theorem take_position_le {p : Purse P} {k : P} {c n bound : Int} (hused : p.used k ≤ included)
    (hn : 0 ≤ n) (hposition : p.spent - p.credit ≤ bound) (hc : c ≤ bound)
    (hfits : c ≤ included - p.used k ∨ p.spent ≤ p.credit) :
    ((p.take included k c).grant n).spent - ((p.take included k c).grant n).credit ≤ bound := by
  show (p.take included k c).spent - (p.credit + n) ≤ bound
  rw [take_spent hused]
  omega

end TwoPools
