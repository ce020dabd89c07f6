import ControlPlane.Model.UsdText

/-!
# Decimal USD is converted exactly

Both conversions answer with the ceiling of the rational that the text stands for, scaled
to micro-USD, or with nothing where that is no safe integer. So neither charges less than
the text says, and a greater amount is never charged less.

## Key results

- `decimalParts_of_matches`: what a decimal text is taken apart into
- `Exact.of_eq`: a conversion that is exact never undercharges, and is monotone
- `usd_charges_exact`: both conversions
-/

namespace ControlPlane

/-! ## What a text stands for -/

/-- A numeral of the grammar, with a digit and an exponent of magnitude 60 at most, and
    the rational it stands for. -/
def IsDecimal (text : String) (v : ℚ) : Prop :=
  ∃ g, DecimalText.Matches g text.toList ∧ g.digits ≠ [] ∧ g.power.natAbs ≤ 60 ∧ v = g.value

/-- The ceiling of an amount scaled by a power of ten, where it is a safe integer. -/
def exactCharge (power : Nat) (v : ℚ) : Option Nat :=
  if ⌈v * 10 ^ power⌉₊ ≤ MAX_SAFE_INTEGER then some ⌈v * 10 ^ power⌉₊ else none

/-- A conversion answers exactly for what an input stands for: it never undercharges, and
    a smaller amount is charged, and charged no more. -/
structure Exact {ι : Type} (power : Nat) (charge : ι → Option Nat) (stands : ι → ℚ → Prop) :
    Prop where
  exact : ∀ i v, stands i v → charge i = exactCharge power v
  covers : ∀ i v n, stands i v → charge i = some n → v * 10 ^ power ≤ n
  monotone : ∀ i j v w, stands i v → stands j w → v ≤ w →
    ∀ n, charge j = some n → ∃ m, charge i = some m ∧ m ≤ n

theorem exactCharge_eq_some {power n : Nat} {v : ℚ} :
    exactCharge power v = some n ↔ ⌈v * 10 ^ power⌉₊ = n ∧ n ≤ MAX_SAFE_INTEGER := by
  unfold exactCharge
  split
  next hsafe =>
    constructor
    · intro h
      cases h
      exact ⟨rfl, hsafe⟩
    · intro ⟨h, _⟩
      rw [h]
  -- past the largest safe integer there is no charge
  next hbig =>
    constructor
    · intro h
      cases h
    · intro ⟨h, hsafe⟩
      rw [h] at hbig
      exact absurd hsafe hbig

/-- Everything else follows from the exact answer. -/
theorem Exact.of_eq {ι : Type} {power : Nat} {charge : ι → Option Nat} {stands : ι → ℚ → Prop}
    (h : ∀ i v, stands i v → charge i = exactCharge power v) : Exact power charge stands where
  exact := h
  covers := by
    intro i v n hi hn
    rw [h i v hi, exactCharge_eq_some] at hn
    rw [← hn.1]
    exact Nat.le_ceil _
  monotone := by
    intro i j v w hi hj hvw n hn
    rw [h j w hj, exactCharge_eq_some] at hn
    -- the larger amount has a charge, so the smaller one has one too
    have hscaled : v * 10 ^ power ≤ w * 10 ^ power :=
      mul_le_mul_of_nonneg_right hvw (by positivity)
    have hle : ⌈v * 10 ^ power⌉₊ ≤ n := hn.1 ▸ Nat.ceil_mono hscaled
    refine ⟨_, ?_, hle⟩
    rw [h i v hi, exactCharge_eq_some]
    exact ⟨rfl, hle.trans hn.2⟩

/-! ## From the parts to the ceiling -/

/-- A zero before the digits of a fraction says nothing. -/
theorem number_zero_cons (ds : List Char) :
    DecimalText.number ('0' :: ds) = DecimalText.number ds := rfl

/-- The digits the source hands to `BigInt`. -/
theorem number_padded (g : DecimalText.Groups) :
    DecimalText.number ((if g.whole = [] then ['0'] else g.whole) ++ g.fraction.getD []) =
      DecimalText.number g.digits := by
  unfold DecimalText.Groups.digits
  split
  next hnil => rw [hnil, List.nil_append, List.singleton_append, number_zero_cons]
  next => rfl

theorem digits_eq_nil (g : DecimalText.Groups) :
    g.digits = [] ↔ g.whole = [] ∧ g.fraction.getD [] = [] := List.append_eq_nil_iff

/-- What a decimal text is taken apart into. -/
theorem decimalParts_of_matches {text : String} {g : DecimalText.Groups}
    (hmatch : DecimalText.Matches g text.toList) (hdigits : g.digits ≠ [])
    (hpower : g.power.natAbs ≤ 60) :
    AigLogs.decimalParts text =
      some (DecimalText.number g.digits, g.power - ((g.fraction.getD []).length : Int)) := by
  have hexec := (DecimalText.exec_iff text.toList g).mpr hmatch
  have hsome : ¬ (g.whole = [] ∧ g.fraction.getD [] = []) :=
    fun h => hdigits ((digits_eq_nil g).mpr h)
  -- an exponent of this size is read
  have hsmall : ¬ 60 < ((g.exponent.map DecimalText.signed).getD 0).natAbs := Nat.not_lt.mpr hpower
  unfold AigLogs.decimalParts
  rw [hexec]
  dsimp only
  rw [if_neg hsome, if_neg hsmall, number_padded]
  rfl

/-- Anything else is refused. -/
theorem decimalParts_eq_none {text : String} (h : ∀ v, ¬ IsDecimal text v) :
    AigLogs.decimalParts text = none := by
  unfold AigLogs.decimalParts
  cases hexec : DecimalText.exec text.toList with
  | none => rfl
  | some g =>
    have hmatch := (DecimalText.exec_iff text.toList g).mp hexec
    dsimp only
    split
    next => rfl
    next hsome =>
      split
      next => rfl
      -- a match with digits and a small exponent is a decimal
      next hsmall =>
        have hdigits : g.digits ≠ [] := fun hnil => hsome ((digits_eq_nil g).mp hnil)
        exact absurd ⟨g, hmatch, hdigits, Nat.le_of_not_lt hsmall, rfl⟩ (h g.value)

/-- The scaled digits are the ceiling of the scaled value. -/
theorem ceil_value (g : DecimalText.Groups) (power : Nat) {exponent : Int}
    (h : exponent = g.power - ((g.fraction.getD []).length : Int) + (power : Int)) :
    ⌈g.value * 10 ^ power⌉₊ =
      if 0 ≤ exponent then DecimalText.number g.digits * 10 ^ exponent.toNat
      else if DecimalText.number g.digits % 10 ^ (-exponent).toNat = 0 then
        DecimalText.number g.digits / 10 ^ (-exponent).toNat
      else DecimalText.number g.digits / 10 ^ (-exponent).toNat + 1 := by
  have hpow : g.value * 10 ^ power = (DecimalText.number g.digits : ℚ) * 10 ^ exponent := by
    rw [DecimalText.Groups.value, mul_assoc, h, zpow_add₀ (by norm_num), zpow_natCast]
  rw [hpow, DecimalText.ceil_mul_zpow]

theorem withinSafeRange_ceil (v : ℚ) (power : Nat) :
    AigLogs.withinSafeRange ⌈v * 10 ^ power⌉₊ = exactCharge power v := by
  unfold AigLogs.withinSafeRange exactCharge
  by_cases h : ⌈v * 10 ^ power⌉₊ ≤ MAX_SAFE_INTEGER
  · rw [if_neg (Nat.not_lt.mpr h), if_pos h]
  · rw [if_pos (Nat.lt_of_not_le h), if_neg h]

/-- A text without a digit is no numeral. -/
theorem ne_empty_of_isDecimal {text : String} {v : ℚ} (h : IsDecimal text v) : text ≠ "" := by
  rintro rfl
  obtain ⟨g, hmatch, hdigits, -⟩ := h
  have hexec := (DecimalText.exec_iff "".toList g).mpr hmatch
  have hempty : DecimalText.exec "".toList = some ⟨[], none, none⟩ := by decide
  rw [hempty] at hexec
  cases hexec
  exact hdigits rfl

/-! ## The two conversions -/

theorem microUsdFromUsd_eq {raw : AigLogs.RawUsd} {text : String} {v : ℚ}
    (htext : raw.text = some text) (h : IsDecimal text v) :
    AigLogs.microUsdFromUsd raw = exactCharge 6 v := by
  have hne := ne_empty_of_isDecimal h
  obtain ⟨g, hmatch, hdigits, hpower, rfl⟩ := h
  rw [← withinSafeRange_ceil,
    ceil_value g 6 (show g.power - ((g.fraction.getD []).length : Int) + 6 = _ from rfl)]
  unfold AigLogs.microUsdFromUsd
  rw [htext]
  dsimp only
  rw [if_neg hne, decimalParts_of_matches hmatch hdigits hpower]
  dsimp only
  split <;> rfl

theorem microUsdFromUsd_eq_none {raw : AigLogs.RawUsd}
    (h : ∀ text v, raw.text = some text → ¬ IsDecimal text v) :
    AigLogs.microUsdFromUsd raw = none := by
  unfold AigLogs.microUsdFromUsd
  cases htext : raw.text with
  | none => rfl
  | some text =>
    dsimp only
    rw [decimalParts_eq_none fun v => h text v htext]
    split <;> rfl

/-- A rate is converted as the record that the catalog refresh keeps of its text. -/
theorem microUsdPerMTok_eq_record {x : ℚ} {text : String} {g : DecimalText.Groups}
    (hmatch : DecimalText.Matches g text.toList) (hdigits : g.digits ≠ [])
    (hpower : g.power.natAbs ≤ 60) (hzero : x = 0 ↔ g.value = 0) (hneg : x < 0 ↔ g.value < 0) :
    AigModels.microUsdPerMTokFromUsdPerToken (.finite x text) =
      microUsdPerMTokFromUsdPerToken
        ⟨DecimalText.number g.digits, (g.fraction.getD []).length, g.power⟩ := by
  have hexec := (DecimalText.exec_iff text.toList g).mpr hmatch
  have hsome : ¬ (g.whole = [] ∧ g.fraction.getD [] = []) :=
    fun h => hdigits ((digits_eq_nil g).mpr h)
  have hsmall : ¬ 60 < ((g.exponent.map DecimalText.signed).getD 0).natAbs := Nat.not_lt.mpr hpower
  have hnonneg : ¬ x < 0 := by
    rw [hneg, not_lt, DecimalText.Groups.value]
    exact mul_nonneg (Nat.cast_nonneg _) (zpow_nonneg (by norm_num) _)
  have hzero : x = 0 ↔ DecimalText.number g.digits = 0 := by
    rw [hzero, DecimalText.Groups.value, mul_eq_zero, Nat.cast_eq_zero]
    exact or_iff_left (zpow_ne_zero _ (by norm_num))
  unfold AigModels.microUsdPerMTokFromUsdPerToken microUsdPerMTokFromUsdPerToken
  dsimp only
  rw [if_neg hnonneg]
  -- zero is charged as zero, everything else through its digits
  by_cases hv : DecimalText.number g.digits = 0
  · rw [if_pos (hzero.mpr hv), if_pos hv]
  · rw [if_neg (fun h => hv (hzero.mp h)), if_neg hv, hexec]
    dsimp only
    rw [if_neg hsome, if_neg hsmall, number_padded]
    exact (if_neg (Nat.not_lt.mpr hpower)).symm

theorem microUsdPerMTok_eq {x v : ℚ} {text : String} (h : IsDecimal text v)
    (hzero : x = 0 ↔ v = 0) (hneg : x < 0 ↔ v < 0) :
    AigModels.microUsdPerMTokFromUsdPerToken (.finite x text) = exactCharge 12 v := by
  obtain ⟨g, hmatch, hdigits, hpower, rfl⟩ := h
  rw [microUsdPerMTok_eq_record hmatch hdigits hpower hzero hneg]
  unfold microUsdPerMTokFromUsdPerToken
  dsimp only
  split
  next hzero =>
    -- digits that are all zero stand for zero
    have hvalue : g.value = 0 := by
      rw [DecimalText.Groups.value, hzero, Nat.cast_zero, zero_mul]
    rw [hvalue, exactCharge, zero_mul, Nat.ceil_zero, if_pos (Nat.zero_le _)]
  next =>
    rw [if_neg (Nat.not_lt.mpr hpower), ← withinSafeRange_ceil,
      ceil_value g 12 (show g.power - ((g.fraction.getD []).length : Int) + 12 = _ from rfl)]
    rfl

/-- What a cost in a log stands for: the rational of its text, trimmed where it is a string. -/
def AigLogs.RawUsd.StandsFor (raw : AigLogs.RawUsd) (v : ℚ) : Prop :=
  ∃ text, raw.text = some text ∧ IsDecimal text v

/-- What a number stands for: the rational of its `toString()`, a text of the grammar. The
    double itself may be another rational; it is zero, or negative, when that one is. -/
def JsNumber.StandsFor (number : JsNumber) (v : ℚ) : Prop :=
  ∃ x text, number = .finite x text ∧ IsDecimal text v ∧ (x = 0 ↔ v = 0) ∧ (x < 0 ↔ v < 0)

/-- Both conversions are exact, never undercharge and are monotone, and a cost that is no
    decimal of the grammar is refused. -/
theorem usd_charges_exact :
    Exact 6 AigLogs.microUsdFromUsd AigLogs.RawUsd.StandsFor ∧
    (∀ raw : AigLogs.RawUsd, (∀ v, ¬ raw.StandsFor v) → AigLogs.microUsdFromUsd raw = none) ∧
    Exact 12 AigModels.microUsdPerMTokFromUsdPerToken JsNumber.StandsFor := by
  refine ⟨Exact.of_eq ?_, ?_, Exact.of_eq ?_⟩
  · intro raw v ⟨text, htext, h⟩
    exact microUsdFromUsd_eq htext h
  · intro raw hnone
    apply microUsdFromUsd_eq_none
    intro text v htext h
    exact hnone v ⟨text, htext, h⟩
  · intro number v ⟨x, text, hnumber, h, hzero, hneg⟩
    rw [hnumber]
    exact microUsdPerMTok_eq h hzero hneg

end ControlPlane
