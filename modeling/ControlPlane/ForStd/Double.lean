import Mathlib.Data.Int.Log
import Mathlib.Data.Rat.Floor
import Mathlib.Algebra.Order.Floor.Ring
import Mathlib.Tactic.Linarith
import Mathlib.Tactic.Positivity
import Mathlib.Tactic.Ring

/-!
# Double precision numbers

Binary64 as the rationals it holds: rounding is to the nearest of them, ties to even.
Rounding itself has no largest exponent; a result from `2^1024` on is an infinity of
`Number`. The two zeros are one.

## Key results

- `round_nearest`: no double is closer to a rational than its rounding
- `round_of_isDouble`: a double is its own rounding
- `round_le` / `le_round`: a double keeps its side of what is rounded
- `two_pow_dvd`: large doubles are multiples of powers of two
- `round_length_iff`: where `(n - 1) + 1` is `n`
-/

namespace Double

/-- A number of at most 53 significant bits whose last one is not below `2^-1074`. -/
def IsDouble (x : ℚ) : Prop := ∃ m e : ℤ, |m| ≤ 2 ^ 53 ∧ -1074 ≤ e ∧ x = m * 2 ^ e

/-- The nearest integer, ties to even. -/
def nearestInt (q : ℚ) : ℤ :=
  if q - ⌊q⌋ < 1 / 2 then ⌊q⌋
  else if 1 / 2 < q - ⌊q⌋ then ⌊q⌋ + 1
  else if ⌊q⌋ % 2 = 0 then ⌊q⌋
  else ⌊q⌋ + 1

/-- The exponent of the last bit of doubles of the size of `q`. -/
def lastBit (q : ℚ) : ℤ := max (Int.log 2 |q| - 52) (-1074)

/-- The nearest double, where it does not overflow. -/
def round (q : ℚ) : ℚ := nearestInt (q / 2 ^ lastBit q) * 2 ^ lastBit q

example : round (2 ^ 53 + 1) = 2 ^ 53 := by decide +kernel

/-! ## The nearest integer -/

/-- The nearest integer is one of the two around. -/
theorem nearestInt_eq_or (q : ℚ) : nearestInt q = ⌊q⌋ ∨ nearestInt q = ⌊q⌋ + 1 := by
  unfold nearestInt
  split_ifs <;> simp

/-- An integer stays on its side. -/
theorem nearestInt_le {q : ℚ} {n : ℤ} (h : q ≤ n) : nearestInt q ≤ n := by
  have hfloor : ⌊q⌋ ≤ n := by exact_mod_cast (Int.floor_le q).trans h
  rcases nearestInt_eq_or q with heq | heq
  · omega
  · -- rounded up, so there was something to round
    rcases hfloor.lt_or_eq with hlt | rfl
    · omega
    · have hq : q = ⌊q⌋ := le_antisymm h (Int.floor_le q)
      unfold nearestInt
      rw [if_pos]
      linarith

/-- An integer below stays below. -/
theorem le_nearestInt {q : ℚ} {n : ℤ} (h : n ≤ q) : n ≤ nearestInt q := by
  have hfloor : n ≤ ⌊q⌋ := Int.le_floor.mpr h
  rcases nearestInt_eq_or q with heq | heq <;> omega

/-- No integer is closer. -/
theorem nearestInt_nearest (q : ℚ) (n : ℤ) : |(nearestInt q : ℚ) - q| ≤ |(n : ℚ) - q| := by
  have hle := Int.floor_le q
  have hlt := Int.lt_floor_add_one q
  -- an integer lies at the floor or below it, or above the floor
  have hside : (n : ℚ) ≤ ⌊q⌋ ∨ (⌊q⌋ : ℚ) + 1 ≤ n := by
    rcases le_or_gt n ⌊q⌋ with h | h
    · exact .inl (by exact_mod_cast h)
    · exact .inr (by exact_mod_cast h)
  have hn : min (q - ⌊q⌋) (⌊q⌋ + 1 - q) ≤ |(n : ℚ) - q| := by
    rcases hside with h | h
    · rw [abs_of_nonpos (by linarith)]
      exact (min_le_left _ _).trans (by linarith)
    · rw [abs_of_nonneg (by linarith)]
      exact (min_le_right _ _).trans (by linarith)
  refine le_trans ?_ hn
  unfold nearestInt
  split_ifs with hlow hhigh
  · rw [abs_of_nonpos (by linarith)]
    exact le_min (by linarith) (by linarith)
  · push_cast
    rw [abs_of_nonneg (by linarith)]
    exact le_min (by linarith) (by linarith)
  · rw [abs_of_nonpos (by linarith)]
    exact le_min (by linarith) (by linarith)
  · push_cast
    rw [abs_of_nonneg (by linarith)]
    exact le_min (by linarith) (by linarith)

/-- It is at most a half away. -/
theorem abs_nearestInt_sub_le (q : ℚ) : |(nearestInt q : ℚ) - q| ≤ 1 / 2 := by
  have hle := Int.floor_le q
  have hlt := Int.lt_floor_add_one q
  -- one of the two neighbours is half a unit away at most
  rcases le_total (q - ⌊q⌋) (1 / 2) with h | h
  · refine (nearestInt_nearest q ⌊q⌋).trans ?_
    rwa [abs_of_nonpos (by linarith), neg_sub]
  · refine (nearestInt_nearest q (⌊q⌋ + 1)).trans ?_
    push_cast
    rw [abs_of_nonneg (by linarith)]
    linarith

/-- A tie goes to the even neighbour. -/
theorem nearestInt_tie {q : ℚ} {n : ℤ} (h : q = n + 1 / 2) :
    nearestInt q = if n % 2 = 0 then n else n + 1 := by
  have hfloor : ⌊q⌋ = n := by
    rw [Int.floor_eq_iff, h]
    constructor <;> linarith
  unfold nearestInt
  rw [hfloor, if_neg (by rw [h]; linarith), if_neg (by rw [h]; linarith)]

/-! ## The nearest double -/

/-- A power of two is positive. -/
theorem two_zpow_pos (e : ℤ) : (0 : ℚ) < 2 ^ e := zpow_pos (by norm_num) e

/-- Zero is a double. -/
@[simp] theorem round_zero : round 0 = 0 := by
  simp [round, nearestInt]

/-- Multiples of the last bit are no closer. -/
theorem round_nearest_multiple (q : ℚ) (n : ℤ) :
    |round q - q| ≤ |(n : ℚ) * 2 ^ lastBit q - q| := by
  have hpos := two_zpow_pos (lastBit q)
  have hscale (k : ℤ) : |(k : ℚ) * 2 ^ lastBit q - q| =
      |(k : ℚ) - q / 2 ^ lastBit q| * 2 ^ lastBit q := by
    rw [← abs_of_pos hpos, ← abs_mul, abs_of_pos hpos, sub_mul, div_mul_cancel₀ _ hpos.ne']
  rw [round, hscale, hscale]
  exact mul_le_mul_of_nonneg_right (nearestInt_nearest _ n) hpos.le

/-- Where the last bit is not the smallest there is, the number has 53 bits above it. -/
theorem two_zpow_le_abs {q : ℚ} (hq : q ≠ 0) (h : -1074 < lastBit q) :
    (2 : ℚ) ^ (lastBit q + 52) ≤ |q| := by
  have hlog : lastBit q + 52 = Int.log 2 |q| := by
    unfold lastBit at h ⊢
    omega
  rw [hlog]
  exact_mod_cast Int.zpow_log_le_self (R := ℚ) one_lt_two (abs_pos.mpr hq)

/-- A rational is less than 53 bits above its last bit. -/
theorem abs_lt_two_zpow (q : ℚ) : |q| < 2 ^ (lastBit q + 53) := by
  have hlog : Int.log 2 |q| + 1 ≤ lastBit q + 53 := by
    unfold lastBit
    omega
  have hlt := Int.lt_zpow_succ_log_self (R := ℚ) one_lt_two |q|
  exact_mod_cast hlt.trans_le (zpow_le_zpow_right₀ one_le_two hlog)

/-- No double is closer to a rational than its rounding. -/
theorem round_nearest (q : ℚ) {d : ℚ} (hd : IsDouble d) : |round q - q| ≤ |d - q| := by
  obtain ⟨m, e, hm, he, rfl⟩ := hd
  rcases le_or_gt (lastBit q) e with hle | hlt
  · -- a multiple of the last bit of `q`
    obtain ⟨k, rfl⟩ : ∃ k : ℕ, e = lastBit q + k := ⟨(e - lastBit q).toNat, by omega⟩
    have hmul : (m : ℚ) * 2 ^ (lastBit q + k) = ((m * 2 ^ k : ℤ) : ℚ) * 2 ^ lastBit q := by
      rw [zpow_add₀ two_ne_zero, zpow_natCast]
      push_cast
      ring
    rw [hmul]
    exact round_nearest_multiple q _
  · rcases eq_or_ne q 0 with rfl | hq
    · rw [round_zero, sub_zero, abs_zero]
      exact abs_nonneg _
    -- with a smaller last bit it is below the power of two under `q`, a multiple in between
    have hbig := two_zpow_le_abs hq (he.trans_lt hlt)
    have hsmall : |(m : ℚ) * 2 ^ e| ≤ 2 ^ (lastBit q + 52) := by
      have hm' : |(m : ℚ)| ≤ 2 ^ 53 := by exact_mod_cast hm
      calc |(m : ℚ) * 2 ^ e| = |(m : ℚ)| * 2 ^ e := by rw [abs_mul, abs_of_pos (two_zpow_pos e)]
        _ ≤ 2 ^ 53 * 2 ^ (lastBit q - 1) :=
          mul_le_mul hm' (zpow_le_zpow_right₀ one_le_two (by omega)) (two_zpow_pos e).le
            (by positivity)
        _ = 2 ^ (lastBit q + 52) := by
          rw [show lastBit q + 52 = 53 + (lastBit q - 1) by ring, zpow_add₀ two_ne_zero]
          norm_cast
    obtain ⟨hlow, hhigh⟩ := abs_le.mp hsmall
    have hpow : (2 : ℚ) ^ (lastBit q + 52) = ((2 ^ 52 : ℤ) : ℚ) * 2 ^ lastBit q := by
      rw [add_comm, zpow_add₀ two_ne_zero]
      norm_cast
    rcases le_total 0 q with hpos | hneg
    · rw [abs_of_nonneg hpos] at hbig
      refine (round_nearest_multiple q (2 ^ 52)).trans ?_
      rw [← hpow, abs_of_nonpos (by linarith), abs_of_nonpos (by linarith)]
      linarith
    · rw [abs_of_nonpos hneg] at hbig
      refine (round_nearest_multiple q (-2 ^ 52)).trans ?_
      have hpow' : ((-2 ^ 52 : ℤ) : ℚ) * 2 ^ lastBit q = -2 ^ (lastBit q + 52) := by
        rw [hpow]
        push_cast
        ring
      rw [hpow', abs_of_nonneg (by linarith), abs_of_nonneg (by linarith)]
      linarith

/-- The negative of a double is one. -/
theorem IsDouble.neg {x : ℚ} (h : IsDouble x) : IsDouble (-x) := by
  obtain ⟨m, e, hm, he, rfl⟩ := h
  exact ⟨-m, e, by rwa [abs_neg], he, by push_cast; ring⟩

/-- What is rounded is a double. -/
theorem isDouble_round (q : ℚ) : IsDouble (round q) := by
  refine ⟨nearestInt (q / 2 ^ lastBit q), lastBit q, ?_, le_max_right _ _, rfl⟩
  have hpos := two_zpow_pos (lastBit q)
  -- the quotient is less than `2^53`, so its nearest integer is at most that
  have hquot : |q / 2 ^ lastBit q| ≤ ((2 ^ 53 : ℤ) : ℚ) := by
    rw [abs_div, abs_of_pos hpos, div_le_iff₀ hpos]
    refine (abs_lt_two_zpow q).le.trans_eq ?_
    rw [add_comm, zpow_add₀ two_ne_zero]
    norm_cast
  obtain ⟨hlow, hhigh⟩ := abs_le.mp hquot
  exact abs_le.mpr ⟨le_nearestInt (by push_cast at hlow ⊢; exact hlow), nearestInt_le hhigh⟩

/-- A double is its own rounding. -/
theorem round_of_isDouble {d : ℚ} (hd : IsDouble d) : round d = d := by
  have hnear := round_nearest d hd
  rw [sub_self, abs_zero] at hnear
  exact sub_eq_zero.mp (abs_eq_zero.mp (le_antisymm hnear (abs_nonneg _)))

/-- And the doubles are what rounding leaves alone. -/
theorem round_eq_self_iff {q : ℚ} : round q = q ↔ IsDouble q :=
  ⟨fun h => h ▸ isDouble_round q, round_of_isDouble⟩

/-- A double above stays above. -/
theorem round_le {q d : ℚ} (hd : IsDouble d) (h : q ≤ d) : round q ≤ d := by
  by_contra hlt
  have hnear := round_nearest q hd
  rw [abs_of_nonneg (by linarith), abs_of_nonneg (by linarith)] at hnear
  linarith

/-- A double below stays below. -/
theorem le_round {q d : ℚ} (hd : IsDouble d) (h : d ≤ q) : d ≤ round q := by
  by_contra hlt
  have hnear := round_nearest q hd
  rw [abs_of_nonpos (by linarith), abs_of_nonpos (by linarith)] at hnear
  linarith

/-- Rounding passes no double. -/
theorem abs_round_le {q d : ℚ} (hd : IsDouble d) (h : |q| ≤ d) : |round q| ≤ d := by
  obtain ⟨hlow, hhigh⟩ := abs_le.mp h
  exact abs_le.mpr ⟨le_round hd.neg hlow, round_le hd hhigh⟩

/-! ## The distance of doubles -/

/-- A double is a multiple of its last bit. -/
theorem exists_multiple {d : ℚ} (hd : IsDouble d) : ∃ m : ℤ, d = m * 2 ^ lastBit d :=
  ⟨nearestInt (d / 2 ^ lastBit d), (round_of_isDouble hd).symm⟩

/-- A double whose last bit is above another's is a multiple of that one too. -/
theorem exists_multiple_of_le {d : ℚ} (hd : IsDouble d) {e : ℤ} (h : e ≤ lastBit d) :
    ∃ m : ℤ, d = m * 2 ^ e := by
  obtain ⟨m, hm⟩ := exists_multiple hd
  obtain ⟨k, hk⟩ : ∃ k : ℕ, lastBit d = e + k := ⟨(lastBit d - e).toNat, by omega⟩
  refine ⟨m * 2 ^ k, ?_⟩
  rw [hk, zpow_add₀ two_ne_zero, zpow_natCast] at hm
  push_cast
  linarith

/-- Doubles next to each other are not closer than their 53rd bit. -/
theorem le_abs_sub {x d : ℚ} (hx : IsDouble x) (hd : IsDouble d) (hpos : 0 < x) (hne : d ≠ x) :
    x / 2 ^ 53 ≤ |d - x| := by
  have hunit : x / 2 ^ 53 ≤ 2 ^ lastBit x := by
    have hlt := abs_lt_two_zpow x
    rw [abs_of_pos hpos, add_comm, zpow_add₀ two_ne_zero] at hlt
    rw [div_le_iff₀ (by positivity), mul_comm]
    exact_mod_cast hlt.le
  obtain ⟨m, hm⟩ := exists_multiple hx
  rcases le_or_gt (lastBit x) (lastBit d) with hle | hlt
  · -- both are multiples of the last bit of `x`
    obtain ⟨k, hk⟩ := exists_multiple_of_le hd hle
    have hkm : 1 ≤ |k - m| := by
      refine Int.one_le_abs (sub_ne_zero.mpr ?_)
      rintro rfl
      exact hne (hk.trans hm.symm)
    have hdiff : |d - x| = |((k - m : ℤ) : ℚ)| * 2 ^ lastBit x := by
      have hsub : d - x = ((k - m : ℤ) : ℚ) * 2 ^ lastBit x := by
        push_cast
        linarith
      rw [hsub, abs_mul, abs_of_pos (two_zpow_pos _)]
    have hone : (1 : ℚ) ≤ |((k - m : ℤ) : ℚ)| := by exact_mod_cast hkm
    rw [hdiff]
    exact hunit.trans (le_mul_of_one_le_left (two_zpow_pos _).le hone)
  · -- `d` is below the power of two under `x`, and has room for one more bit
    obtain ⟨k, hk⟩ := exists_multiple hd
    have hlast : -1074 < lastBit x := (le_max_right _ _ : -1074 ≤ lastBit d).trans_lt hlt
    have hlow := two_zpow_le_abs hpos.ne' hlast
    have hhigh := abs_lt_two_zpow d
    have hdpos := two_zpow_pos (lastBit d)
    have hkle : k ≤ 2 ^ 53 - 1 := by
      rw [hk, abs_mul, abs_of_pos hdpos, add_comm, ← hk, zpow_add₀ two_ne_zero] at hhigh
      have hklt : |(k : ℚ)| < 2 ^ (53 : ℤ) := lt_of_mul_lt_mul_right hhigh hdpos.le
      have hklt' : |k| < 2 ^ 53 := by exact_mod_cast hklt
      have := (abs_lt.mp hklt').2
      omega
    have hhalf : (2 : ℚ) ^ lastBit d ≤ 2 ^ (lastBit x - 1) :=
      zpow_le_zpow_right₀ one_le_two (by omega)
    have hdle : d ≤ (2 ^ 53 - 1) * 2 ^ (lastBit x - 1) := by
      have hkle' : (k : ℚ) ≤ 2 ^ 53 - 1 := by exact_mod_cast hkle
      calc d = k * 2 ^ lastBit d := hk
        _ ≤ (2 ^ 53 - 1) * 2 ^ lastBit d := mul_le_mul_of_nonneg_right hkle' hdpos.le
        _ ≤ (2 ^ 53 - 1) * 2 ^ (lastBit x - 1) := mul_le_mul_of_nonneg_left hhalf (by norm_num)
    have hxle : 2 ^ 53 * 2 ^ (lastBit x - 1) ≤ x := by
      rw [abs_of_pos hpos, show lastBit x + 52 = 53 + (lastBit x - 1) by ring,
        zpow_add₀ two_ne_zero] at hlow
      exact_mod_cast hlow
    rw [abs_of_nonpos (by linarith [two_zpow_pos (lastBit x - 1)])]
    linarith [two_zpow_pos (lastBit x - 1)]

/-- What is close enough to a double rounds to it. -/
theorem round_of_close {x q : ℚ} (hx : IsDouble x) (hpos : 0 < x)
    (h : 2 * |q - x| < x / 2 ^ 53) : round q = x := by
  by_contra hne
  have hgap := le_abs_sub hx (isDouble_round q) hpos hne
  have hnear := round_nearest q hx
  rw [abs_sub_comm x q] at hnear
  have htri : |round q - x| ≤ |round q - q| + |q - x| := abs_sub_le _ _ _
  linarith

/-! ## Integers -/

/-- Integers up to `2^53` are doubles. -/
theorem isDouble_of_abs_le {n : ℤ} (h : |n| ≤ 2 ^ 53) : IsDouble n :=
  ⟨n, 0, h, by decide, by rw [zpow_zero, mul_one]⟩

/-- Doubles from `2^(52+k)` on are multiples of `2^k`. -/
theorem two_pow_dvd {n : ℤ} {k : ℕ} (h : IsDouble n) (hn : 2 ^ (52 + k) ≤ |n|) :
    (2 : ℤ) ^ k ∣ n := by
  obtain ⟨m, e, hm, -, hval⟩ := h
  rcases le_or_gt (k : ℤ) e with hle | hlt
  · obtain ⟨j, rfl⟩ : ∃ j : ℕ, e = k + j := ⟨(e - k).toNat, by omega⟩
    refine ⟨m * 2 ^ j, ?_⟩
    rw [zpow_add₀ two_ne_zero, zpow_natCast, zpow_natCast] at hval
    exact_mod_cast hval.trans (by ring : (m : ℚ) * (2 ^ k * 2 ^ j) = 2 ^ k * (m * 2 ^ j))
  · -- with a smaller last bit only the bound itself is left
    have hupper : |(n : ℚ)| ≤ 2 ^ (52 + k) := by
      have hm' : |(m : ℚ)| ≤ 2 ^ 53 := by exact_mod_cast hm
      calc |(n : ℚ)| = |(m : ℚ)| * 2 ^ e := by rw [hval, abs_mul, abs_of_pos (two_zpow_pos e)]
        _ ≤ 2 ^ 53 * 2 ^ ((k : ℤ) - 1) :=
          mul_le_mul hm' (zpow_le_zpow_right₀ one_le_two (by omega)) (two_zpow_pos e).le
            (by positivity)
        _ = 2 ^ (52 + k) := by
          rw [← zpow_natCast, ← zpow_natCast, ← zpow_add₀ two_ne_zero]
          congr 1
          omega
    have heq : |n| = 2 ^ (52 + k) := le_antisymm (by exact_mod_cast hupper) hn
    rw [← dvd_abs, heq, pow_add]
    exact dvd_mul_left _ _

/-- The rounding of an integer is one. -/
theorem round_intCast (n : ℤ) : ∃ r : ℤ, round n = r := by
  rcases le_or_gt |n| (2 ^ 53) with hsmall | hbig
  · exact ⟨n, round_of_isDouble (isDouble_of_abs_le hsmall)⟩
  · -- past `2^53` the last bit is at least one
    have hpos : (0 : ℚ) < |(n : ℚ)| := by exact_mod_cast (show 0 < |n| by omega)
    have hlog : 53 ≤ Int.log 2 |(n : ℚ)| := by
      apply (Int.zpow_le_iff_le_log one_lt_two hpos).mp
      exact_mod_cast hbig.le
    obtain ⟨k, hk⟩ : ∃ k : ℕ, lastBit n = k := ⟨(lastBit n).toNat, by unfold lastBit; omega⟩
    refine ⟨nearestInt (n / 2 ^ lastBit n) * 2 ^ k, ?_⟩
    rw [round, hk]
    push_cast
    rw [zpow_natCast]

/-- Between `2^53` and `2^54` an odd number is a tie of its neighbours. -/
theorem round_odd {q : ℤ} (hodd : q % 2 = 1) (hlow : 2 ^ 53 < q) (hhigh : q < 2 ^ 54) :
    round q = if q % 4 = 1 then (q : ℚ) - 1 else q + 1 := by
  -- between `2 ^ 53` and `2 ^ 54` the last bit weighs two
  have hlast : lastBit q = 1 := by
    have hpos : (0 : ℚ) < q := by exact_mod_cast (show (0 : ℤ) < q by omega)
    have hge : 53 ≤ Int.log 2 (q : ℚ) := by
      apply (Int.zpow_le_iff_le_log one_lt_two hpos).mp
      exact_mod_cast hlow.le
    have hlt : Int.log 2 (q : ℚ) < 54 := by
      apply (Int.lt_zpow_iff_log_lt one_lt_two hpos).mp
      exact_mod_cast hhigh
    unfold lastBit
    rw [abs_of_pos hpos]
    omega
  -- so an odd number lies halfway between two doubles
  have hhalf : (q : ℚ) / 2 = ((q / 2 : ℤ) : ℚ) + 1 / 2 := by
    have hq : (q : ℚ) = 2 * ((q / 2 : ℤ) : ℚ) + 1 := by
      exact_mod_cast (by omega : q = 2 * (q / 2) + 1)
    linarith
  have hdouble : (2 : ℚ) * ((q / 2 : ℤ) : ℚ) = q - 1 := by linarith
  rw [round, hlast, zpow_one, nearestInt_tie hhalf]
  -- and ties go to the even half
  by_cases h : q % 4 = 1
  · rw [if_pos h, if_pos (by omega)]
    linarith
  · rw [if_neg h, if_neg (by omega)]
    push_cast
    linarith

/-- The odd numbers beside a large multiple of four round to it. -/
theorem round_beside {n q : ℤ} (hn : IsDouble n) (hfour : 4 ∣ n) (hbig : 2 ^ 53 < n)
    (hq : q = n - 1 ∨ q = n + 1) : round q = n := by
  rcases lt_or_ge q (2 ^ 54) with hlt | hge
  · rw [round_odd (by omega) (by omega) hlt]
    rcases hq with rfl | rfl
    · rw [if_neg (by omega)]
      push_cast
      ring
    · rw [if_pos (by omega)]
      push_cast
      ring
  · -- the rounding is a multiple of four as well, and no further from `q`
    obtain ⟨r, hr⟩ := round_intCast q
    have hdist : |r - q| ≤ 1 := by
      have hnear := round_nearest q hn
      rw [hr] at hnear
      have hone : |n - q| = 1 := by rcases hq with rfl | rfl <;> simp
      exact hone ▸ (by exact_mod_cast hnear : |r - q| ≤ |n - q|)
    have hbounds := abs_le.mp hdist
    have hr4 : (2 : ℤ) ^ 2 ∣ r := by
      refine two_pow_dvd (hr ▸ isDouble_round q) ?_
      have hle : ((2 ^ 54 : ℤ) : ℚ) ≤ round q :=
        le_round ⟨1, 54, by decide, by decide, by norm_num⟩ (by exact_mod_cast hge)
      rw [hr] at hle
      exact (by exact_mod_cast hle : (2 : ℤ) ^ 54 ≤ r).trans (le_abs_self r)
    rw [hr]
    congr 1
    rcases hq with rfl | rfl <;> omega

/-- Where taking one off and putting it back gives the number again. -/
theorem round_length_iff {n : ℤ} (hn : 1 ≤ n) :
    round (round (n - 1) + 1) = n ↔ n ≤ 2 ^ 53 ∨ IsDouble n ∧ 4 ∣ n := by
  have hpred : (n : ℚ) - 1 = ((n - 1 : ℤ) : ℚ) := by push_cast; rfl
  have hsucc : (n : ℚ) + 1 = ((n + 1 : ℤ) : ℚ) := by push_cast; rfl
  rcases le_or_gt n (2 ^ 53) with hsmall | hbig
  · -- both results are doubles
    have hexact : round ((n : ℚ) - 1) = n - 1 := by
      rw [hpred]
      exact round_of_isDouble (isDouble_of_abs_le (abs_le.mpr (by omega)))
    rw [hexact, sub_add_cancel]
    exact iff_of_true (round_of_isDouble (isDouble_of_abs_le (abs_le.mpr (by omega)))) (.inl hsmall)
  constructor
  · intro h
    have hd : IsDouble n := h ▸ isDouble_round _
    refine .inr ⟨hd, ?_⟩
    have heven : (2 : ℤ) ^ 1 ∣ n := two_pow_dvd hd (by rw [abs_of_pos (by omega)]; omega)
    by_contra hfour
    -- the next double would be a multiple of four, so `n` is in the first binade past `2^53`
    have hhigh : n < 2 ^ 54 := by
      by_contra hge
      exact hfour (two_pow_dvd (k := 2) hd (by rw [abs_of_pos (by omega)]; omega))
    have hdown : round ((n - 1 : ℤ) : ℚ) = (n : ℚ) - 2 := by
      rw [round_odd (by omega) (by omega) (by omega), if_pos (by omega)]
      push_cast
      ring
    have hagain : (n : ℚ) - 2 + 1 = ((n - 1 : ℤ) : ℚ) := by push_cast; ring
    rw [hpred, hdown, hagain, hdown] at h
    linarith
  · rintro (hsmall | ⟨hd, hfour⟩)
    · omega
    · rw [hpred, round_beside hd hfour hbig (.inl rfl), hsucc,
        round_beside hd hfour hbig (.inr rfl)]

end Double

/-! ## Numbers -/

/-- A finite double. -/
structure Double where
  val : ℚ
  isDouble : Double.IsDouble val
  lt : |val| < 2 ^ 1024
deriving DecidableEq

/-- A JavaScript number. -/
inductive Number where
  | finite (x : Double)
  | infinite (negative : Bool)
  | nan
deriving DecidableEq

namespace Number

/-- The number nearest to a rational. -/
def ofRat (q : ℚ) : Number :=
  if h : |Double.round q| < 2 ^ 1024 then .finite ⟨Double.round q, Double.isDouble_round q, h⟩
  else .infinite (decide (q < 0))

/-- `Number.isFinite`. -/
def isFinite : Number → Bool
  | .finite _ => true
  | _ => false

/-- `Number.isInteger`. -/
def isInteger : Number → Bool
  | .finite x => x.val.den == 1
  | _ => false

/-- `m < n`. -/
def lt : Number → Number → Bool
  | .finite x, .finite y => decide (x.val < y.val)
  | .finite _, .infinite negative => !negative
  | .infinite negative, .finite _ => negative
  | .infinite negative, .infinite negative' => negative && !negative'
  | _, _ => false

/-- `m <= n`. -/
def le : Number → Number → Bool
  | .nan, _ => false
  | _, .nan => false
  | m, n => !n.lt m

/-- `-n`. -/
def neg : Number → Number
  | .finite x => .finite ⟨-x.val, x.isDouble.neg, by rw [abs_neg]; exact x.lt⟩
  | .infinite negative => .infinite !negative
  | .nan => .nan

/-- `m + n`. -/
def add : Number → Number → Number
  | .finite x, .finite y => ofRat (x.val + y.val)
  | .nan, _ => .nan
  | _, .nan => .nan
  | .finite _, n => n
  | m, .finite _ => m
  | .infinite negative, .infinite negative' =>
    if negative = negative' then .infinite negative else .nan

/-- `m - n`. -/
def sub (m n : Number) : Number := m.add n.neg

/-- `Math.min(m, n)`. -/
def min (m n : Number) : Number :=
  if m = .nan ∨ n = .nan then .nan else if n.lt m then n else m

/-- `Math.max(m, n)`. -/
def max (m n : Number) : Number :=
  if m = .nan ∨ n = .nan then .nan else if m.lt n then n else m

/-- The number is the finite one of this value. -/
def HasValue (n : Number) (q : ℚ) : Prop := ∃ x : Double, n = .finite x ∧ x.val = q

/-- The value of a number is a double. -/
theorem HasValue.isDouble {n : Number} {q : ℚ} (h : n.HasValue q) : Double.IsDouble q := by
  obtain ⟨x, -, rfl⟩ := h
  exact x.isDouble

/-- And below the overflow. -/
theorem HasValue.lt {n : Number} {q : ℚ} (h : n.HasValue q) : |q| < 2 ^ 1024 := by
  obtain ⟨x, -, rfl⟩ := h
  exact x.lt

/-- A number has one value. -/
theorem HasValue.unique {n : Number} {q r : ℚ} (hq : n.HasValue q) (hr : n.HasValue r) : q = r := by
  obtain ⟨x, rfl, rfl⟩ := hq
  obtain ⟨y, heq, rfl⟩ := hr
  cases heq
  rfl

/-- Numbers of one value are one number. -/
theorem HasValue.eq {m n : Number} {q : ℚ} (hm : m.HasValue q) (hn : n.HasValue q) : m = n := by
  obtain ⟨⟨v, _, _⟩, rfl, rfl⟩ := hm
  obtain ⟨⟨w, _, _⟩, rfl, rfl⟩ := hn
  rfl

/-- What does not overflow is the rounding. -/
theorem hasValue_ofRat {q : ℚ} (h : |Double.round q| < 2 ^ 1024) :
    (ofRat q).HasValue (Double.round q) := by
  rw [ofRat, dif_pos h]
  exact ⟨_, rfl, rfl⟩

/-- The number of a rational has the rounded value. -/
theorem ofRat_hasValue {q r : ℚ} (h : (ofRat q).HasValue r) : r = Double.round q := by
  unfold ofRat at h
  split at h
  · exact h.unique ⟨_, rfl, rfl⟩
  · obtain ⟨x, hx, -⟩ := h
    cases hx

/-- And no other, below the overflow. -/
theorem ofRat_hasValue_iff {q r : ℚ} (h : |r| < 2 ^ 1024) :
    (ofRat q).HasValue r ↔ Double.round q = r := by
  constructor
  · exact fun hvalue => (ofRat_hasValue hvalue).symm
  · rintro rfl
    exact hasValue_ofRat h

/-- A double is the number nearest to itself. -/
theorem ofRat_of_isDouble {q : ℚ} (hd : Double.IsDouble q) (h : |q| < 2 ^ 1024) :
    (ofRat q).HasValue q := by
  have hround := Double.round_of_isDouble hd
  have hvalue := hasValue_ofRat (q := q) (by rw [hround]; exact h)
  rwa [hround] at hvalue

/-- Integers up to `2^53` are numbers. -/
theorem ofRat_intCast {n : ℤ} (h : |n| ≤ 2 ^ 53) : (ofRat n).HasValue n := by
  refine ofRat_of_isDouble (Double.isDouble_of_abs_le h) ?_
  have hq : |(n : ℚ)| ≤ 2 ^ 53 := by exact_mod_cast h
  exact hq.trans_lt (pow_lt_pow_right₀ one_lt_two (by decide))

/-- The value of `-x`. -/
theorem HasValue.neg {n : Number} {q : ℚ} (h : n.HasValue q) : n.neg.HasValue (-q) := by
  obtain ⟨x, rfl, rfl⟩ := h
  exact ⟨_, rfl, rfl⟩

/-- `x + y` is the number of the exact sum. -/
theorem HasValue.add_eq {m n : Number} {q r : ℚ} (hm : m.HasValue q) (hn : n.HasValue r) :
    m.add n = ofRat (q + r) := by
  obtain ⟨x, rfl, rfl⟩ := hm
  obtain ⟨y, rfl, rfl⟩ := hn
  rfl

/-- So its value is the rounded sum. -/
theorem HasValue.add {m n : Number} {q r : ℚ} (hm : m.HasValue q) (hn : n.HasValue r)
    (h : |Double.round (q + r)| < 2 ^ 1024) : (m.add n).HasValue (Double.round (q + r)) := by
  rw [hm.add_eq hn]
  exact hasValue_ofRat h

/-- And that of `x - y` the rounded difference. -/
theorem HasValue.sub {m n : Number} {q r : ℚ} (hm : m.HasValue q) (hn : n.HasValue r)
    (h : |Double.round (q - r)| < 2 ^ 1024) : (m.sub n).HasValue (Double.round (q - r)) := by
  rw [sub_eq_add_neg] at h ⊢
  exact hm.add hn.neg h

/-- A sum up to `2^53` is exact. -/
theorem HasValue.add_intCast {m n : Number} {a b : ℤ} (hm : m.HasValue a) (hn : n.HasValue b)
    (h : |a + b| ≤ 2 ^ 53) : (m.add n).HasValue ((a + b : ℤ) : ℚ) := by
  have hround : Double.round ((a : ℚ) + b) = ((a + b : ℤ) : ℚ) := by
    rw [← Int.cast_add]
    exact Double.round_of_isDouble (Double.isDouble_of_abs_le h)
  have hlt := (ofRat_intCast h).lt
  have hsum := hm.add hn (by rw [hround]; exact hlt)
  rwa [hround] at hsum

/-- A number with an integer value is an integer. -/
theorem HasValue.isInteger {n : Number} {k : ℤ} (h : n.HasValue k) : n.isInteger = true := by
  obtain ⟨x, rfl, hx⟩ := h
  show (x.val.den == 1) = true
  rw [hx]
  rfl

/-- Numbers compare as their values do. -/
theorem HasValue.lt_iff {m n : Number} {q r : ℚ} (hm : m.HasValue q) (hn : n.HasValue r) :
    m.lt n = true ↔ q < r := by
  obtain ⟨x, rfl, rfl⟩ := hm
  obtain ⟨y, rfl, rfl⟩ := hn
  exact decide_eq_true_iff

/-- And so for `<=`. -/
theorem HasValue.le_iff {m n : Number} {q r : ℚ} (hm : m.HasValue q) (hn : n.HasValue r) :
    m.le n = true ↔ q ≤ r := by
  have hlt := hn.lt_iff hm
  obtain ⟨x, rfl, rfl⟩ := hm
  obtain ⟨y, rfl, rfl⟩ := hn
  show (!(Number.lt (.finite y) (.finite x))) = true ↔ x.val ≤ y.val
  rw [Bool.not_eq_true', ← Bool.not_eq_true, hlt, not_lt]

/-- `NaN` has no value. -/
theorem HasValue.ne_nan {n : Number} {q : ℚ} (h : n.HasValue q) : n ≠ .nan := by
  obtain ⟨x, rfl, -⟩ := h
  exact Number.noConfusion

/-- The value of `Math.min`. -/
theorem HasValue.min {m n : Number} {q r : ℚ} (hm : m.HasValue q) (hn : n.HasValue r) :
    (m.min n).HasValue (Min.min q r) := by
  rw [Number.min, if_neg (not_or.mpr ⟨hm.ne_nan, hn.ne_nan⟩)]
  by_cases h : r < q
  · rwa [if_pos ((hn.lt_iff hm).mpr h), min_eq_right h.le]
  · rwa [if_neg (mt (hn.lt_iff hm).mp h), min_eq_left (not_lt.mp h)]

/-- The value of `Math.max`. -/
theorem HasValue.max {m n : Number} {q r : ℚ} (hm : m.HasValue q) (hn : n.HasValue r) :
    (m.max n).HasValue (Max.max q r) := by
  rw [Number.max, if_neg (not_or.mpr ⟨hm.ne_nan, hn.ne_nan⟩)]
  by_cases h : q < r
  · rwa [if_pos ((hm.lt_iff hn).mpr h), max_eq_right h.le]
  · rwa [if_neg (mt (hm.lt_iff hn).mp h), max_eq_left (not_lt.mp h)]

/-- `Number.isFinite` tells the numbers with a value. -/
theorem isFinite_iff {n : Number} : n.isFinite = true ↔ ∃ q, n.HasValue q := by
  constructor
  · intro h
    cases n with
    | finite x => exact ⟨x.val, x, rfl, rfl⟩
    | infinite _ => cases h
    | nan => cases h
  · rintro ⟨q, x, rfl, -⟩
    rfl

end Number
