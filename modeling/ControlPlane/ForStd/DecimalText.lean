import Mathlib.Algebra.Order.Floor.Semiring
import Mathlib.Algebra.Order.Field.Rat
import Mathlib.Data.Rat.Floor
import Mathlib.Tactic.Positivity
import Mathlib.Tactic.FieldSimp

/-!
# Decimal numerals

Unsigned decimals with a point and an exponent, as the pattern
`/^\+?(\d*)(?:\.(\d*))?(?:[eE]([+-]?\d+))?$/` matches them, and the rational they
stand for.

## Key results

- `exec_iff`: the scanner finds the groups of a text exactly where it has some
- `ceil_mul_zpow`: the ceiling of a decimal, by the digits and the power of ten
-/

namespace DecimalText

/-- The groups of a match; a group that took no part is `none`. -/
structure Groups where
  whole : List Char
  fraction : Option (List Char)
  exponent : Option (List Char)
deriving Repr, DecidableEq

/-! ## The grammar -/

/-- Every character is a decimal digit. -/
def Digits (cs : List Char) : Prop := ∀ c ∈ cs, c.isDigit = true

/-- `[+-]?\d+`. -/
def IsExponent (cs : List Char) : Prop :=
  ∃ sign ds, cs = sign ++ ds ∧ (sign = [] ∨ sign = ['+'] ∨ sign = ['-']) ∧ ds ≠ [] ∧ Digits ds

/-- The point and what follows it. -/
def Groups.fractionText (g : Groups) : List Char :=
  match g.fraction with
  | none => []
  | some ds => '.' :: ds

/-- The exponent behind its mark. -/
def Groups.exponentText (g : Groups) (mark : Char) : List Char :=
  match g.exponent with
  | none => []
  | some cs => mark :: cs

/-- The text is put together from the groups. -/
structure Matches (g : Groups) (text : List Char) : Prop where
  whole : Digits g.whole
  fraction : ∀ ds, g.fraction = some ds → Digits ds
  exponent : ∀ cs, g.exponent = some cs → IsExponent cs
  text : ∃ plus mark, (plus = [] ∨ plus = ['+']) ∧ (mark = 'e' ∨ mark = 'E') ∧
    text = plus ++ (g.whole ++ (g.fractionText ++ g.exponentText mark))

/-! ## The scanner -/

/-- The text behind a plus sign, where there is one. -/
def dropPlus : List Char → List Char
  | '+' :: cs => cs
  | cs => cs

/-- The text behind a sign, where there is one. -/
def dropSign : List Char → List Char
  | '+' :: cs => cs
  | '-' :: cs => cs
  | cs => cs

/-- The digits behind a point, where there is one, and the rest. -/
def readFraction : List Char → Option (List Char) × List Char
  | '.' :: cs => (some (cs.takeWhile Char.isDigit), cs.dropWhile Char.isDigit)
  | cs => (none, cs)

/-- The exponent up to the end of the text, if there is one. -/
def readExponent : List Char → Option (Option (List Char))
  | [] => some none
  | c :: cs =>
    if (c = 'e' ∨ c = 'E') ∧ dropSign cs ≠ [] ∧ (dropSign cs).all Char.isDigit then some (some cs)
    else none

/-- The groups of the whole text. -/
def exec (text : List Char) : Option Groups :=
  let cs := dropPlus text
  let rest := readFraction (cs.dropWhile Char.isDigit)
  (readExponent rest.2).map fun exponent => ⟨cs.takeWhile Char.isDigit, rest.1, exponent⟩

example : exec "+12.5e-3".toList = some ⟨['1', '2'], some ['5'], some ['-', '3']⟩ := by decide

/-! ## The scanner finds the groups -/

/-- The digits a text begins with are digits. -/
theorem digits_takeWhile (cs : List Char) : Digits (cs.takeWhile Char.isDigit) :=
  List.all_eq_true.mp List.all_takeWhile

/-- Digits in front of a text that does not start with one. -/
theorem span_append {ds cs : List Char} (hds : Digits ds)
    (hcs : ∀ c ∈ cs.head?, c.isDigit = false) :
    (ds ++ cs).takeWhile Char.isDigit = ds ∧ (ds ++ cs).dropWhile Char.isDigit = cs := by
  rw [List.takeWhile_append_of_pos hds, List.dropWhile_append_of_pos hds]
  cases cs with
  | nil => exact ⟨List.append_nil ds, rfl⟩
  | cons c cs =>
    have hc : ¬ c.isDigit = true := by
      rw [hcs c rfl]
      exact Bool.false_ne_true
    rw [List.takeWhile_cons_of_neg hc, List.dropWhile_cons_of_neg hc, List.append_nil]
    exact ⟨rfl, rfl⟩

/-- A text is an optional plus and what stands behind it. -/
theorem dropPlus_spec (text : List Char) :
    ∃ plus, (plus = [] ∨ plus = ['+']) ∧ text = plus ++ dropPlus text := by
  unfold dropPlus
  split
  next cs => exact ⟨['+'], Or.inr rfl, rfl⟩
  next cs => exact ⟨[], Or.inl rfl, rfl⟩

/-- A text is an optional sign and what stands behind it. -/
theorem dropSign_spec (cs : List Char) :
    ∃ sign, (sign = [] ∨ sign = ['+'] ∨ sign = ['-']) ∧ cs = sign ++ dropSign cs := by
  unfold dropSign
  split
  next cs => exact ⟨['+'], Or.inr (Or.inl rfl), rfl⟩
  next cs => exact ⟨['-'], Or.inr (Or.inr rfl), rfl⟩
  next cs => exact ⟨[], Or.inl rfl, rfl⟩

/-- A text that does not begin with a plus stays as it is. -/
theorem dropPlus_of_head {cs : List Char} (h : '+' ∉ cs.head?) : dropPlus cs = cs := by
  unfold dropPlus
  split
  next cs => exact absurd rfl h
  next => rfl

/-- An exponent is an optional sign and some digits. -/
theorem isExponent_iff (cs : List Char) :
    IsExponent cs ↔ dropSign cs ≠ [] ∧ (dropSign cs).all Char.isDigit = true := by
  rw [List.all_eq_true]
  constructor
  · rintro ⟨sign, ds, rfl, rfl | rfl | rfl, hne, hds⟩
    · -- a digit is no sign
      have hunsigned : dropSign ([] ++ ds) = ds := by
        rw [List.nil_append]
        unfold dropSign
        split
        next ds => exact absurd (hds '+' List.mem_cons_self) (by decide)
        next ds => exact absurd (hds '-' List.mem_cons_self) (by decide)
        next => rfl
      rw [hunsigned]
      exact ⟨hne, hds⟩
    · exact ⟨hne, hds⟩
    · exact ⟨hne, hds⟩
  · intro ⟨hne, hds⟩
    obtain ⟨sign, hsign, hcs⟩ := dropSign_spec cs
    exact ⟨sign, dropSign cs, hcs, hsign, hne, hds⟩

/-- What is read as an exponent is the mark and an exponent, or nothing at all. -/
theorem readExponent_iff (cs : List Char) (exponent : Option (List Char)) :
    readExponent cs = some exponent ↔
      (∀ es, exponent = some es → IsExponent es) ∧
      ∃ mark, (mark = 'e' ∨ mark = 'E') ∧
        cs = Groups.exponentText ⟨[], none, exponent⟩ mark := by
  constructor
  · intro h
    cases cs with
    | nil =>
      cases h
      refine ⟨?_, 'e', Or.inl rfl, rfl⟩
      intro es hes
      cases hes
    | cons c cs =>
      rw [readExponent] at h
      split at h
      -- a mark and an exponent after it; the mark is the one that was read
      next hexp =>
        cases h
        refine ⟨?_, c, hexp.1, rfl⟩
        intro es hes
        cases hes
        exact (isExponent_iff cs).mpr hexp.2
      next => cases h
  · intro ⟨hexp, mark, hmark, hcs⟩
    cases exponent with
    | none =>
      rw [hcs]
      rfl
    | some es =>
      have hes := (isExponent_iff es).mp (hexp es rfl)
      rw [hcs]
      exact if_pos ⟨hmark, hes⟩

/-- What is read as a fraction stands in front of the rest. -/
theorem readFraction_spec (cs : List Char) :
    cs = Groups.fractionText ⟨[], (readFraction cs).1, none⟩ ++ (readFraction cs).2 ∧
      ∀ ds, (readFraction cs).1 = some ds → Digits ds := by
  unfold readFraction
  split
  next cs =>
    constructor
    · exact congrArg (List.cons '.') List.takeWhile_append_dropWhile.symm
    · intro ds hds
      cases hds
      exact digits_takeWhile cs
  next cs =>
    refine ⟨rfl, ?_⟩
    intro ds hds
    cases hds

/-- Neither a digit nor a sign nor a point starts an exponent. -/
theorem head_exponentText (g : Groups) {mark : Char} (hmark : mark = 'e' ∨ mark = 'E') :
    ∀ c ∈ (g.exponentText mark).head?, c.isDigit = false ∧ c ≠ '+' ∧ c ≠ '.' := by
  unfold Groups.exponentText
  intro c hc
  split at hc
  · cases hc
  · cases hc
    obtain rfl | rfl := hmark <;> decide

/-- A fraction or an exponent begins with neither a digit nor a plus. -/
theorem head_fractionText (g : Groups) {mark : Char} (hmark : mark = 'e' ∨ mark = 'E') :
    ∀ c ∈ (g.fractionText ++ g.exponentText mark).head?, c.isDigit = false ∧ c ≠ '+' := by
  unfold Groups.fractionText
  intro c hc
  split at hc
  · have hhead := head_exponentText g hmark c hc
    exact ⟨hhead.1, hhead.2.1⟩
  · cases hc
    decide

/-- A fraction that is written is read back. -/
theorem readFraction_append {g : Groups} (hfraction : ∀ ds, g.fraction = some ds → Digits ds)
    {mark : Char} (hmark : mark = 'e' ∨ mark = 'E') :
    readFraction (g.fractionText ++ g.exponentText mark) =
      (g.fraction, g.exponentText mark) := by
  have hhead := head_exponentText g hmark
  unfold Groups.fractionText
  cases hds : g.fraction with
  -- an exponent does not begin with a point
  | none =>
    dsimp only
    rw [List.nil_append]
    unfold readFraction
    split
    next cs hcs =>
      rw [hcs] at hhead
      exact absurd rfl (hhead '.' rfl).2.2
    next => rfl
  | some ds =>
    obtain ⟨htake, hdrop⟩ := span_append (hfraction ds hds) fun c hc => (hhead c hc).1
    show (some ((ds ++ _).takeWhile Char.isDigit), (ds ++ _).dropWhile Char.isDigit) = _
    rw [htake, hdrop]

/-- The scanner finds the groups of a text exactly where it has some. -/
theorem exec_iff (text : List Char) (g : Groups) : exec text = some g ↔ Matches g text := by
  constructor
  · intro h
    -- each reader gives the piece it took and the rest it left
    obtain ⟨plus, hplus, htext⟩ := dropPlus_spec text
    obtain ⟨exponent, hread, rfl⟩ := Option.map_eq_some_iff.mp h
    obtain ⟨hexp, mark, hmark, hrest⟩ := (readExponent_iff _ _).mp hread
    obtain ⟨hafter, hfraction⟩ := readFraction_spec ((dropPlus text).dropWhile Char.isDigit)
    refine ⟨digits_takeWhile _, hfraction, hexp, plus, mark, hplus, hmark, ?_⟩
    -- put the pieces together again
    have hspan := List.takeWhile_append_dropWhile (p := Char.isDigit) (l := dropPlus text)
    rw [hafter, hrest] at hspan
    exact htext.trans (congrArg (plus ++ ·) hspan.symm)
  · intro ⟨hwhole, hfraction, hexp, plus, mark, hplus, hmark, htext⟩
    -- what follows the digits starts with none, so `span` stops there
    have hhead := head_fractionText g hmark
    have hspan := span_append hwhole fun c hc => (hhead c hc).1
    have hdrop : dropPlus text = g.whole ++ (g.fractionText ++ g.exponentText mark) := by
      rw [htext]
      obtain rfl | rfl := hplus
      · rw [List.nil_append]
        apply dropPlus_of_head
        intro hmem
        -- what follows the sign starts with a digit, or not with a sign
        cases hw : g.whole with
        | nil =>
          rw [hw, List.nil_append] at hmem
          exact (hhead '+' hmem).2 rfl
        | cons c cs =>
          rw [hw] at hmem
          cases hmem
          exact absurd (hwhole '+' (by rw [hw]; exact List.mem_cons_self)) (by decide)
      · rfl
    have hread : readExponent (g.exponentText mark) = some g.exponent :=
      (readExponent_iff _ _).mpr ⟨hexp, mark, hmark, rfl⟩
    unfold exec
    dsimp only
    rw [hdrop, hspan.1, hspan.2, readFraction_append hfraction hmark, hread]
    rfl

/-! ## Values -/

/-- The natural that digits write. -/
def number (ds : List Char) : Nat := Nat.ofDigitChars 10 ds 0

/-- The integer that an exponent writes. -/
def signed : List Char → Int
  | '-' :: ds => -(number ds : Int)
  | '+' :: ds => number ds
  | ds => number ds

namespace Groups

/-- The digits without their point. -/
def digits (g : Groups) : List Char := g.whole ++ g.fraction.getD []

/-- The power of ten behind the digits as they are written. -/
def power (g : Groups) : Int := (g.exponent.map signed).getD 0

/-- The rational that a numeral stands for. -/
def value (g : Groups) : ℚ :=
  (number g.digits : ℚ) * 10 ^ (g.power - ((g.fraction.getD []).length : Int))

end Groups

/-- The ceiling of a quotient, by quotient and remainder. -/
theorem ceil_div (d : Nat) {D : Nat} (hpos : 0 < D) :
    ⌈(d : ℚ) / D⌉₊ = if d % D = 0 then d / D else d / D + 1 := by
  have hD : (0 : ℚ) < D := by exact_mod_cast hpos
  have hdiv := Nat.div_add_mod d D
  have hlt := Nat.mod_lt d hpos
  split
  -- nothing is left over
  next hzero =>
    have hd : (d : ℚ) = D * (d / D : Nat) := by
      exact_mod_cast (by omega : d = D * (d / D))
    rw [hd, mul_div_cancel_left₀ _ hD.ne', Nat.ceil_natCast]
  -- something is left over, and counts as one more
  next hrest =>
    have hne : d / D + 1 ≠ 0 := Nat.succ_ne_zero _
    rw [Nat.ceil_eq_iff hne, Nat.add_sub_cancel, lt_div_iff₀ hD, div_le_iff₀ hD]
    constructor
    · exact_mod_cast (by rw [Nat.mul_comm]; omega : d / D * D < d)
    · exact_mod_cast (by rw [Nat.add_mul, Nat.mul_comm]; omega : d ≤ (d / D + 1) * D)

/-- The ceiling of a decimal, by the digits and the power of ten. -/
theorem ceil_mul_zpow (d : Nat) (e : Int) :
    ⌈(d : ℚ) * 10 ^ e⌉₊ =
      if 0 ≤ e then d * 10 ^ e.toNat
      else if d % 10 ^ (-e).toNat = 0 then d / 10 ^ (-e).toNat
      else d / 10 ^ (-e).toNat + 1 := by
  by_cases he : 0 ≤ e
  · obtain ⟨n, rfl⟩ := Int.eq_ofNat_of_zero_le he
    rw [if_pos he, zpow_natCast, Int.toNat_natCast]
    exact_mod_cast Nat.ceil_natCast (R := ℚ) (d * 10 ^ n)
  · obtain ⟨n, hn⟩ := Int.eq_ofNat_of_zero_le (show 0 ≤ -e by omega)
    rw [if_neg he, hn, Int.toNat_natCast]
    -- a negative power is a quotient
    have hpow : (d : ℚ) * 10 ^ e = (d : ℚ) / ((10 ^ n : Nat) : ℚ) := by
      rw [show e = -(n : Int) by omega, zpow_neg, zpow_natCast, div_eq_mul_inv]
      push_cast
      rfl
    rw [hpow, ceil_div d (by positivity)]

end DecimalText
