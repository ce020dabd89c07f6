import Mathlib.Data.String.Basic

/-!
# UTF-16 code units

A JavaScript string is a sequence of UTF-16 code units. `encode` gives the units of
a text, `decode` the text of any units: a surrogate that stands alone has no
character, and comes out as U+FFFD, as an encoder to bytes writes it.

## Key results

- `encodeChar_pair` / `encodeChar_decodeUnit`: a unit or a pair is known by its character
- `encodeChar_cases`: the units of a character, and the character they are read back as
- `decode_encode`: a text is known by its units
-/

namespace Utf16

/-- The first half of a surrogate pair. -/
def isHigh (u : UInt16) : Bool := 0xD800 ≤ u.toNat && u.toNat < 0xDC00

/-- The second half of a surrogate pair. -/
def isLow (u : UInt16) : Bool := 0xDC00 ≤ u.toNat && u.toNat < 0xE000

/-- A unit that is half of a pair. -/
def isSurrogate (u : UInt16) : Bool := isHigh u || isLow u

/-- The units of a character: two above the basic plane. -/
def encodeChar (c : Char) : List UInt16 :=
  if c.toNat < 0x10000 then [UInt16.ofNat c.toNat]
  else [UInt16.ofNat (0xD800 + (c.toNat - 0x10000) / 0x400),
    UInt16.ofNat (0xDC00 + (c.toNat - 0x10000) % 0x400)]

/-- The units of a text. -/
def encode (s : String) : List UInt16 := s.toList.flatMap encodeChar

/-- The character of a surrogate pair. -/
def pair (hi lo : UInt16) : Char :=
  Char.ofNat (0x10000 + (hi.toNat - 0xD800) * 0x400 + (lo.toNat - 0xDC00))

/-- The character of a unit that is not half of a pair. -/
def decodeUnit (u : UInt16) : Char :=
  if isSurrogate u then Char.ofNat 0xFFFD else Char.ofNat u.toNat

/-- The text of some units. -/
def decode : List UInt16 → List Char
  | [] => []
  | [u] => [decodeUnit u]
  | u :: v :: us =>
    if isHigh u && isLow v then pair u v :: decode us else decodeUnit u :: decode (v :: us)

theorem toNat_ofNat_of_lt {n : Nat} (h : n < 0xD800 ∨ 0xDFFF < n ∧ n < 0x110000) :
    (Char.ofNat n).toNat = n := by
  rw [Char.ofNat, dif_pos (show n.isValidChar from h)]
  rfl

theorem toNat_lt (c : Char) : c.toNat < 0xD800 ∨ 0xDFFF < c.toNat ∧ c.toNat < 0x110000 :=
  c.valid

theorem isSurrogate_eq_false {u : UInt16} (h : isSurrogate u = false) :
    u.toNat < 0xD800 ∨ 0xDFFF < u.toNat := by
  simp only [isSurrogate, isHigh, isLow, Bool.or_eq_false_iff, Bool.and_eq_false_iff,
    decide_eq_false_iff_not] at h
  omega

/-- A unit that is no surrogate is the one unit of its character. -/
theorem encodeChar_decodeUnit {u : UInt16} (h : isSurrogate u = false) :
    encodeChar (decodeUnit u) = [u] := by
  have hu := isSurrogate_eq_false h
  have hlt := u.toNat_lt
  have hchar : (Char.ofNat u.toNat).toNat = u.toNat := toNat_ofNat_of_lt (by omega)
  rw [decodeUnit, h, if_neg Bool.false_ne_true, encodeChar, hchar, if_pos (by omega),
    UInt16.ofNat_toNat]

/-- A surrogate pair is the two units of its character. -/
theorem encodeChar_pair {hi lo : UInt16} (hhi : isHigh hi = true) (hlo : isLow lo = true) :
    encodeChar (pair hi lo) = [hi, lo] := by
  simp only [isHigh, isLow, Bool.and_eq_true, decide_eq_true_eq] at hhi hlo
  have hchar : (pair hi lo).toNat =
      0x10000 + (hi.toNat - 0xD800) * 0x400 + (lo.toNat - 0xDC00) := by
    apply toNat_ofNat_of_lt
    omega
  have hfst : 0xD800 + ((pair hi lo).toNat - 0x10000) / 0x400 = hi.toNat := by omega
  have hsnd : 0xDC00 + ((pair hi lo).toNat - 0x10000) % 0x400 = lo.toNat := by omega
  rw [encodeChar, if_neg (by omega), hfst, hsnd, UInt16.ofNat_toNat, UInt16.ofNat_toNat]

/-- A character above the basic plane. -/
theorem toNat_pair {hi lo : UInt16} (hhi : isHigh hi = true) (hlo : isLow lo = true) :
    0x10000 ≤ (pair hi lo).toNat := by
  have hlength := congrArg List.length (encodeChar_pair hhi hlo)
  by_contra hsmall
  rw [encodeChar, if_pos (by omega)] at hlength
  simp at hlength

theorem decode_cons_of_single {u : UInt16} {us : List UInt16} (h : isHigh u = false) :
    decode (u :: us) = decodeUnit u :: decode us := by
  cases us with
  | nil => rfl
  | cons v us => simp [decode, h]

/-- A character is one unit that is no surrogate, or a pair, and is read back from them. -/
theorem encodeChar_cases (c : Char) :
    (∃ u, encodeChar c = [u] ∧ isSurrogate u = false ∧ decodeUnit u = c) ∨
    ∃ hi lo, encodeChar c = [hi, lo] ∧ isHigh hi = true ∧ isLow lo = true ∧ pair hi lo = c := by
  have hvalid := toNat_lt c
  by_cases hc : c.toNat < 0x10000
  · left
    -- below 0x10000 no character has a surrogate's number
    have hunit : (UInt16.ofNat c.toNat).toNat = c.toNat := by
      rw [UInt16.toNat_ofNat']
      omega
    have hsingle : isSurrogate (UInt16.ofNat c.toNat) = false := by
      simp only [isSurrogate, isHigh, isLow, hunit, Bool.or_eq_false_iff, Bool.and_eq_false_iff,
        decide_eq_false_iff_not]
      omega
    refine ⟨_, if_pos hc, hsingle, ?_⟩
    rw [decodeUnit, hsingle, if_neg Bool.false_ne_true, hunit, Char.ofNat_toNat]
  · right
    -- ten bits in each half
    have hhi : (UInt16.ofNat (0xD800 + (c.toNat - 0x10000) / 0x400)).toNat =
        0xD800 + (c.toNat - 0x10000) / 0x400 := by
      rw [UInt16.toNat_ofNat']
      omega
    have hlo : (UInt16.ofNat (0xDC00 + (c.toNat - 0x10000) % 0x400)).toNat =
        0xDC00 + (c.toNat - 0x10000) % 0x400 := by
      rw [UInt16.toNat_ofNat']
      omega
    refine ⟨_, _, if_neg hc, ?_, ?_, ?_⟩
    · simp only [isHigh, hhi, Bool.and_eq_true, decide_eq_true_eq]
      omega
    · simp only [isLow, hlo, Bool.and_eq_true, decide_eq_true_eq]
      omega
    · have hsum : 0x10000 + (0xD800 + (c.toNat - 0x10000) / 0x400 - 0xD800) * 0x400 +
          (0xDC00 + (c.toNat - 0x10000) % 0x400 - 0xDC00) = c.toNat := by omega
      rw [pair, hhi, hlo, hsum, Char.ofNat_toNat]

theorem decode_encodeChar (c : Char) (us : List UInt16) :
    decode (encodeChar c ++ us) = c :: decode us := by
  obtain ⟨u, hc, hsingle, hchar⟩ | ⟨hi, lo, hc, hhi, hlo, hchar⟩ := encodeChar_cases c
  · have hhigh := (Bool.or_eq_false_iff.mp hsingle).1
    rw [hc, List.singleton_append, decode_cons_of_single hhigh, hchar]
  · have hpair : (isHigh hi && isLow lo) = true := Bool.and_eq_true_iff.mpr ⟨hhi, hlo⟩
    rw [hc, List.cons_append, List.singleton_append, decode, if_pos hpair, hchar]

/-- A text is known by its units. -/
theorem decode_encode (s : String) : decode (encode s) = s.toList := by
  unfold encode
  induction s.toList with
  | nil => rfl
  | cons c cs ih => rw [List.flatMap_cons, decode_encodeChar, ih]

theorem encode_injective : Function.Injective encode := by
  intro s t h
  have hlist : s.toList = t.toList := by rw [← decode_encode s, ← decode_encode t, h]
  exact String.toList_inj.mp hlist

/-- A unit alone comes out as one unit. -/
theorem length_encodeChar_decodeUnit (u : UInt16) : (encodeChar (decodeUnit u)).length = 1 := by
  cases hsurrogate : isSurrogate u with
  | false => rw [encodeChar_decodeUnit hsurrogate]; rfl
  | true => rw [decodeUnit, hsurrogate]; rfl

/-- Reading units as text keeps their number. -/
theorem length_flatMap_decode (us : List UInt16) :
    ((decode us).flatMap encodeChar).length = us.length := by
  induction us using decode.induct with
  | case1 => rfl
  | case2 u => simp [decode, length_encodeChar_decodeUnit]
  | case3 u v us hpair ih =>
    have hboth := Bool.and_eq_true _ _ ▸ hpair
    rw [decode, if_pos hpair, List.flatMap_cons, encodeChar_pair hboth.1 hboth.2]
    simp only [List.length_append, List.length_cons, List.length_nil, ih]
    omega
  | case4 u v us hpair ih =>
    rw [decode, if_neg hpair, List.flatMap_cons, List.length_append, ih,
      length_encodeChar_decodeUnit]
    simp only [List.length_cons]
    omega

end Utf16
