import Mathlib.Data.Nat.Digits.Defs
import Mathlib.Data.Nat.Digits.Lemmas
import Mathlib.Tactic.Ring

/-!
# Big-endian bytes

Naturals as bytes, most significant first: in a fixed width, and in as few bytes as
they need.

## Key results

- `value_ofNat` / `value_inj`: bytes of one width and their values
- `value_minimal`: the shortest bytes of a natural
- `length_stripZeros_le_iff`: how many bytes are left without leading zeros
- `ofNat_value_stripZeros`: what is padded back to a width
-/

namespace BigEndian

/-- The natural that some bytes spell. -/
def value (bytes : List UInt8) : Nat := bytes.foldl (fun n byte => n * 256 + byte.toNat) 0

/-- The low `width` bytes of a natural. -/
def ofNat : Nat → Nat → List UInt8
  | 0, _ => []
  | width + 1, n => UInt8.ofNat (n / 256 ^ width) :: ofNat width n

/-- The bytes of a natural, none for zero. -/
def minimal (n : Nat) : List UInt8 := (Nat.digits 256 n).reverse.map UInt8.ofNat

/-- Without leading zeros; the last byte stays. -/
def stripZeros : List UInt8 → List UInt8
  | b :: c :: bytes => if b = 0 then stripZeros (c :: bytes) else b :: c :: bytes
  | bytes => bytes

/-! ## Values -/

/-- No byte has the value zero. -/
theorem value_nil : value [] = 0 := rfl

/-- A byte behind shifts the others by eight bits. -/
theorem value_concat (bytes : List UInt8) (byte : UInt8) :
    value (bytes ++ [byte]) = value bytes * 256 + byte.toNat := by simp [value]

/-- The fold begun at another value. -/
theorem foldl_value (bytes : List UInt8) (n : Nat) :
    bytes.foldl (fun n byte => n * 256 + byte.toNat) n = n * 256 ^ bytes.length + value bytes := by
  induction bytes generalizing n with
  | nil => simp [value]
  | cons b bs ih =>
    have htail : value (b :: bs) = b.toNat * 256 ^ bs.length + value bs := by
      show bs.foldl _ (0 * 256 + b.toNat) = _
      rw [ih, Nat.zero_mul, Nat.zero_add]
    rw [List.foldl_cons, ih, htail, List.length_cons, Nat.pow_succ]
    ring

/-- The first byte weighs the most. -/
theorem value_cons (b : UInt8) (bytes : List UInt8) :
    value (b :: bytes) = b.toNat * 256 ^ bytes.length + value bytes := by
  show bytes.foldl _ (0 * 256 + b.toNat) = _
  rw [foldl_value, Nat.zero_mul, Nat.zero_add]

/-- The value fits in the bytes. -/
theorem value_lt (bytes : List UInt8) : value bytes < 256 ^ bytes.length := by
  induction bytes with
  | nil => decide
  | cons b bs ih =>
    have hb : b.toNat + 1 ≤ 256 := b.toNat_lt
    have hmul := Nat.mul_le_mul_right (256 ^ bs.length) hb
    rw [value_cons, List.length_cons, Nat.pow_succ]
    rw [Nat.add_mul] at hmul
    omega

/-- Leading zeros say nothing. -/
theorem value_replicate_append (k : Nat) (bytes : List UInt8) :
    value (List.replicate k 0 ++ bytes) = value bytes := by
  induction k with
  | zero => rfl
  | succ k ih => rw [List.replicate_succ, List.cons_append, value_cons, ih]; simp

/-- Bytes of one width are known by their value. -/
theorem value_inj {xs ys : List UInt8} (hlength : xs.length = ys.length)
    (h : value xs = value ys) : xs = ys := by
  induction xs generalizing ys with
  | nil => exact (List.length_eq_zero_iff.mp hlength.symm).symm
  | cons x xs ih =>
    cases ys with
    | nil => simp at hlength
    | cons y ys =>
      have hrest : xs.length = ys.length := Nat.succ.inj hlength
      have hx := value_lt xs
      have hy := value_lt ys
      have hpos : 0 < 256 ^ ys.length := by positivity
      rw [value_cons, value_cons, hrest] at h
      rw [hrest] at hx
      -- the first byte is the quotient, the rest the remainder
      have hfirst : x.toNat = y.toNat := by
        have hquot := congrArg (· / 256 ^ ys.length) h
        simp only [Nat.mul_comm _ (256 ^ ys.length), Nat.mul_add_div hpos,
          Nat.div_eq_of_lt hx, Nat.div_eq_of_lt hy] at hquot
        omega
      have htail : value xs = value ys := by
        rw [hfirst] at h
        omega
      rw [UInt8.toNat_inj.mp hfirst, ih hrest htail]

/-! ## Fixed width -/

/-- A number is written in the width asked for. -/
theorem length_ofNat (width n : Nat) : (ofNat width n).length = width := by
  induction width with
  | zero => rfl
  | succ width ih => rw [ofNat, List.length_cons, ih]

/-- And read back modulo what fits in it. -/
theorem value_ofNat (width n : Nat) : value (ofNat width n) = n % 256 ^ width := by
  induction width with
  | zero => rw [Nat.pow_zero, Nat.mod_one]; rfl
  | succ width ih =>
    have hbyte : (UInt8.ofNat (n / 256 ^ width)).toNat = n / 256 ^ width % 256 :=
      UInt8.toNat_ofNat'
    rw [ofNat, value_cons, ih, length_ofNat, hbyte, Nat.mod_pow_succ]
    ring

/-- A number that fits is read back. -/
theorem value_ofNat_of_lt {width n : Nat} (h : n < 256 ^ width) : value (ofNat width n) = n := by
  rw [value_ofNat, Nat.mod_eq_of_lt h]

/-- Bytes padded to a width. -/
theorem ofNat_value {width : Nat} {bytes : List UInt8} (h : bytes.length ≤ width) :
    ofNat width (value bytes) = List.replicate (width - bytes.length) 0 ++ bytes := by
  apply value_inj
  · rw [length_ofNat, List.length_append, List.length_replicate]
    omega
  · have hlt : value bytes < 256 ^ width :=
      Nat.lt_of_lt_of_le (value_lt bytes) (Nat.pow_le_pow_right (by decide) h)
    rw [value_ofNat_of_lt hlt, value_replicate_append]

/-! ## As few bytes as needed -/

/-- Base-256 digits have their own value. -/
theorem value_digits {digits : List Nat} (h : ∀ d ∈ digits, d < 256) :
    value (digits.reverse.map UInt8.ofNat) = Nat.ofDigits 256 digits := by
  induction digits with
  | nil => rfl
  | cons d ds ih =>
    have hd : (UInt8.ofNat d).toNat = d := by
      rw [UInt8.toNat_ofNat', Nat.mod_eq_of_lt (h d List.mem_cons_self)]
    rw [List.reverse_cons, List.map_append, List.map_singleton, value_concat,
      ih fun e he => h e (List.mem_cons_of_mem d he), hd, Nat.ofDigits_cons]
    omega

/-- The shortest bytes of a number are read back as it. -/
theorem value_minimal (n : Nat) : value (minimal n) = n := by
  rw [minimal, value_digits fun d hd => Nat.digits_lt_base (by decide) hd, Nat.ofDigits_digits]

/-- They are no more than the number needs. -/
theorem length_minimal_le {n k : Nat} (h : n < 256 ^ k) : (minimal n).length ≤ k := by
  rw [minimal, List.length_map, List.length_reverse]
  exact (Nat.digits_length_le_iff (by decide) n).mpr h

/-- A number that is not zero has a byte. -/
theorem minimal_ne_nil {n : Nat} (h : n ≠ 0) : minimal n ≠ [] := by
  intro hnil
  have hvalue := value_minimal n
  rw [hnil, value_nil] at hvalue
  exact h hvalue.symm

/-! ## Leading zeros -/

/-- Leading zeros do not count. -/
theorem value_stripZeros (bytes : List UInt8) : value (stripZeros bytes) = value bytes := by
  induction bytes with
  | nil => rfl
  | cons b bs ih =>
    cases bs with
    | nil => rfl
    | cons c cs =>
      rw [stripZeros]
      split
      next hb => rw [ih, hb, value_cons 0]; simp
      next => rfl

/-- What is left is the end of what there was. -/
theorem stripZeros_suffix (bytes : List UInt8) : stripZeros bytes <:+ bytes := by
  induction bytes with
  | nil => exact List.suffix_rfl
  | cons b bs ih =>
    cases bs with
    | nil => exact List.suffix_rfl
    | cons c cs =>
      rw [stripZeros]
      split
      next => exact ih.trans (List.suffix_cons b _)
      next => exact List.suffix_rfl

/-- What is left is one byte, or starts with one that is not zero. -/
theorem stripZeros_shape {bytes : List UInt8} (h : bytes ≠ []) :
    ∃ b bs, stripZeros bytes = b :: bs ∧ (bs = [] ∨ b ≠ 0) := by
  induction bytes with
  | nil => exact absurd rfl h
  | cons b bs ih =>
    cases bs with
    | nil => exact ⟨b, [], rfl, Or.inl rfl⟩
    | cons c cs =>
      rw [stripZeros]
      split
      next => exact ih (List.cons_ne_nil c cs)
      next hb => exact ⟨b, c :: cs, rfl, Or.inr hb⟩

/-- The bytes left fit in a width iff the value does. -/
theorem length_stripZeros_le_iff {bytes : List UInt8} (h : bytes ≠ []) {width : Nat}
    (hwidth : 0 < width) : (stripZeros bytes).length ≤ width ↔ value bytes < 256 ^ width := by
  constructor
  · intro hle
    rw [← value_stripZeros]
    exact Nat.lt_of_lt_of_le (value_lt _) (Nat.pow_le_pow_right (by decide) hle)
  · intro hlt
    obtain ⟨b, bs, heq, hshape⟩ := stripZeros_shape h
    rw [← value_stripZeros, heq, value_cons] at hlt
    rw [heq, List.length_cons]
    cases hshape with
    | inl hnil => rw [hnil, List.length_nil]; omega
    | inr hb =>
      -- a leading byte above zero is worth a power of the base
      have hb : 1 ≤ b.toNat := by
        by_contra hzero
        exact hb (UInt8.toNat_inj.mp (by rw [UInt8.toNat_zero]; omega))
      have hpow : 256 ^ bs.length < 256 ^ width := by
        have := Nat.mul_le_mul_right (256 ^ bs.length) hb
        omega
      exact (Nat.pow_lt_pow_iff_right (by decide)).mp hpow

/-- What is left, padded back to a width. -/
theorem ofNat_value_stripZeros {bytes : List UInt8} {width : Nat}
    (h : (stripZeros bytes).length ≤ width) : ofNat width (value bytes) =
      List.replicate (width - (stripZeros bytes).length) 0 ++ stripZeros bytes := by
  rw [← value_stripZeros, ofNat_value h]

end BigEndian
