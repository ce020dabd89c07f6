import ControlPlane.ForStd.TextDecoder

/-!
# Text written as UTF-8 and read back

Between two characters the decoder holds nothing but whether it has put one out, and the
bytes of a character bring it from there to there. So it reads back what the encoder wrote,
but for a byte order mark in front.

## Key results

- `Utf8Decoder.chars_utf8EncodeChar`: the bytes of one character
- `TextDecoder.text_encode`: a text is read back from its bytes
-/

namespace Utf8Decoder

/-- Between two characters. -/
def between (bomSeen : Bool) : Utf8Decoder := { start with bomSeen := bomSeen }

/-- A byte that is not the last of its character. -/
theorem step_more (codePoint n : Nat) {lower upper byte : Nat} (bomSeen : Bool)
    (h : lower ≤ byte ∧ byte ≤ upper) :
    (⟨codePoint, n + 2, lower, upper, bomSeen⟩ : Utf8Decoder).step byte =
      (⟨codePoint * 0x40 + byte % 0x40, n + 1, 0x80, 0xBF, bomSeen⟩, []) := by
  rw [step, if_neg (Nat.succ_ne_zero _)]
  dsimp only
  rw [if_pos h, if_neg (by omega)]
  rfl

/-- The last byte of a character. -/
theorem step_last {codePoint lower upper byte : Nat} {bomSeen : Bool}
    (h : lower ≤ byte ∧ byte ≤ upper) :
    (⟨codePoint, 1, lower, upper, bomSeen⟩ : Utf8Decoder).step byte =
      (between bomSeen).put (Char.ofNat (codePoint * 0x40 + byte % 0x40)) := by
  rw [step, if_neg Nat.one_ne_zero]
  dsimp only
  rw [if_pos h, if_pos rfl]
  rfl

theorem step_between (bomSeen : Bool) (byte : Nat) :
    (between bomSeen).step byte = (between bomSeen).firstByte byte := if_pos rfl

/-- The byte of a small number is that number. -/
theorem toNat_ofNat_byte {n : Nat} (h : n < 256) : (UInt8.ofNat n).toNat = n := by
  rw [UInt8.toNat_ofNat']
  exact Nat.mod_eq_of_lt h

/-- A byte that puts nothing out only moves the decoder. -/
theorem chars_cons_of_step {s s' : Utf8Decoder} {b : UInt8} (h : s.step b.toNat = (s', []))
    (bytes : List UInt8) : s.chars (b :: bytes) = s'.chars bytes := by
  rw [chars, h]
  rfl

theorem chars_singleton (s : Utf8Decoder) (b : UInt8) : s.chars [b] = s.step b.toNat := by
  rw [chars, chars, List.append_nil]

/-! ## Characters of each length -/

section

variable (bomSeen) {v : Nat}

theorem chars_two (hlow : 0x7f < v) (hhigh : v ≤ 0x7ff) :
    (between bomSeen).chars [.ofNat (v / 64 % 0x20 + 0xc0), .ofNat (v % 0x40 + 0x80)] =
      (between bomSeen).put (Char.ofNat v) := by
  have hfirst : (between bomSeen).step (UInt8.ofNat (v / 64 % 0x20 + 0xc0)).toNat =
      (⟨v / 64, 1, 0x80, 0xBF, bomSeen⟩, []) := by
    rw [toNat_ofNat_byte (by omega), step_between, firstByte, if_neg (by omega),
      if_pos (by omega), show (v / 64 % 0x20 + 0xc0) % 0x20 = v / 64 by omega]
    rfl
  rw [chars_cons_of_step hfirst, chars_singleton, toNat_ofNat_byte (by omega),
    step_last (by omega), show v / 64 * 0x40 + (v % 0x40 + 0x80) % 0x40 = v by omega]

theorem chars_three (hlow : 0x7ff < v) (hhigh : v ≤ 0xffff) (hvalid : v < 0xD800 ∨ 0xDFFF < v) :
    (between bomSeen).chars [.ofNat (v / 4096 % 0x10 + 0xe0), .ofNat (v / 64 % 0x40 + 0x80),
      .ofNat (v % 0x40 + 0x80)] = (between bomSeen).put (Char.ofNat v) := by
  have hfirst : (between bomSeen).step (UInt8.ofNat (v / 4096 % 0x10 + 0xe0)).toNat =
      (⟨v / 4096, 2, if v / 4096 = 0 then 0xA0 else 0x80,
        if v / 4096 = 13 then 0x9F else 0xBF, bomSeen⟩, []) := by
    rw [toNat_ofNat_byte (by omega), step_between, firstByte, if_neg (by omega),
      if_neg (by omega), if_pos (by omega),
      show (v / 4096 % 0x10 + 0xe0) % 0x10 = v / 4096 by omega,
      show v / 4096 % 0x10 + 0xe0 = v / 4096 + 0xe0 by omega]
    simp only [Nat.add_eq_right, between, start]
    congr 3
    exact propext (by omega)
  -- the narrower bounds keep out what is written shorter, and the surrogates
  have hsecond : (if v / 4096 = 0 then 0xA0 else 0x80) ≤ v / 64 % 0x40 + 0x80 ∧
      v / 64 % 0x40 + 0x80 ≤ if v / 4096 = 13 then 0x9F else 0xBF := by
    split <;> split <;> omega
  have hmore := step_more (v / 4096) 0 bomSeen hsecond
  rw [← toNat_ofNat_byte (show v / 64 % 0x40 + 0x80 < 256 by omega)] at hmore
  rw [chars_cons_of_step hfirst, chars_cons_of_step hmore, chars_singleton,
    toNat_ofNat_byte (by omega), toNat_ofNat_byte (by omega), step_last (by omega),
    show (v / 4096 * 0x40 + (v / 64 % 0x40 + 0x80) % 0x40) * 0x40 + (v % 0x40 + 0x80) % 0x40 = v by
      omega]

theorem chars_four (hlow : 0xffff < v) (hhigh : v < 0x110000) :
    (between bomSeen).chars [.ofNat (v / 262144 % 0x08 + 0xf0), .ofNat (v / 4096 % 0x40 + 0x80),
      .ofNat (v / 64 % 0x40 + 0x80), .ofNat (v % 0x40 + 0x80)] =
        (between bomSeen).put (Char.ofNat v) := by
  -- the lead byte keeps three bits and bounds the next byte
  have hfirst : (between bomSeen).step (UInt8.ofNat (v / 262144 % 0x08 + 0xf0)).toNat =
      (⟨v / 262144, 3, if v / 262144 = 0 then 0x90 else 0x80,
        if v / 262144 = 4 then 0x8F else 0xBF, bomSeen⟩, []) := by
    rw [toNat_ofNat_byte (by omega), step_between, firstByte, if_neg (by omega),
      if_neg (by omega), if_neg (by omega), if_pos (by omega),
      show (v / 262144 % 0x08 + 0xf0) % 0x8 = v / 262144 by omega,
      show v / 262144 % 0x08 + 0xf0 = v / 262144 + 0xf0 by omega]
    simp only [Nat.add_eq_right, between, start]
    congr 3
    exact propext (by omega)
  -- the bounds leave out overlong forms and what lies past the last plane
  have hsecond : (if v / 262144 = 0 then 0x90 else 0x80) ≤ v / 4096 % 0x40 + 0x80 ∧
      v / 4096 % 0x40 + 0x80 ≤ if v / 262144 = 4 then 0x8F else 0xBF := by
    split <;> split <;> omega
  have hmore := step_more (v / 262144) 1 bomSeen hsecond
  rw [← toNat_ofNat_byte (show v / 4096 % 0x40 + 0x80 < 256 by omega)] at hmore
  -- the other two bytes are plain continuations
  have htail : 0x80 ≤ v / 64 % 0x40 + 0x80 ∧ v / 64 % 0x40 + 0x80 ≤ 0xBF := by omega
  have hthird := step_more (v / 4096) 0 bomSeen htail
  rw [← toNat_ofNat_byte (show v / 64 % 0x40 + 0x80 < 256 by omega)] at hthird
  rw [chars_cons_of_step hfirst, chars_cons_of_step hmore, toNat_ofNat_byte (by omega),
    show v / 262144 * 0x40 + (v / 4096 % 0x40 + 0x80) % 0x40 = v / 4096 by omega,
    chars_cons_of_step hthird, chars_singleton, toNat_ofNat_byte (by omega),
    toNat_ofNat_byte (by omega), step_last (by omega),
    show (v / 4096 * 0x40 + (v / 64 % 0x40 + 0x80) % 0x40) * 0x40 + (v % 0x40 + 0x80) % 0x40 = v by
      omega]

end

/-- The bytes of a character are read as that character. -/
theorem chars_utf8EncodeChar (bomSeen : Bool) (c : Char) :
    (between bomSeen).chars (String.utf8EncodeChar c) = (between bomSeen).put c := by
  have hvalid : c.toNat < 0xD800 ∨ 0xDFFF < c.toNat ∧ c.toNat < 0x110000 := c.valid
  have hchar : Char.ofNat c.toNat = c := Char.ofNat_toNat c
  unfold String.utf8EncodeChar
  dsimp only
  rw [show c.val.toNat = c.toNat from rfl]
  generalize c.toNat = v at hvalid hchar
  subst hchar
  -- by the number of bytes of the character
  split
  next h =>
    rw [chars_singleton, toNat_ofNat_byte (by omega), step_between, firstByte, if_pos h]
  next hone =>
    split
    next h => exact chars_two bomSeen (by omega) h
    next htwo =>
      split
      next h => exact chars_three bomSeen (by omega) h (by omega)
      next h => exact chars_four bomSeen (by omega) (by omega)

/-- A byte order mark that is put out in front of everything is dropped. -/
theorem put_between (bomSeen : Bool) (c : Char) : (between bomSeen).put c =
    (between true, if !bomSeen && c.toNat == 0xFEFF then [] else [c]) := rfl

/-- Once something has been put out, all characters are. -/
theorem chars_flatMap_utf8EncodeChar (cs : List Char) :
    (between true).chars (cs.flatMap String.utf8EncodeChar) = (between true, cs) := by
  induction cs with
  | nil => rfl
  | cons c cs ih =>
    rw [List.flatMap_cons, chars_append, chars_utf8EncodeChar, put_between]
    dsimp only
    rw [ih]
    rfl

end Utf8Decoder

namespace TextEncoder

theorem encode_append (s t : String) : encode (s ++ t) = encode s ++ encode t := by
  rw [encode, String.toList_append, List.flatMap_append]
  rfl

end TextEncoder

/-- A text that does not begin with a byte order mark is read back from its bytes. -/
theorem TextDecoder.text_encode {s : String} (h : ∀ c ∈ s.toList.head?, c.toNat ≠ 0xFEFF) :
    utf8.text (TextEncoder.encode s) = s := by
  have hchars : (Utf8Decoder.between false).chars (TextEncoder.encode s) =
      (Utf8Decoder.between (!s.toList.isEmpty), s.toList) := by
    unfold TextEncoder.encode
    cases hs : s.toList with
    | nil => rfl
    | cons c cs =>
      have hc : (c.toNat == 0xFEFF) = false := beq_eq_false_iff_ne.mpr (h c (by rw [hs]; rfl))
      rw [List.flatMap_cons, Utf8Decoder.chars_append, Utf8Decoder.chars_utf8EncodeChar,
        Utf8Decoder.put_between, hc]
      dsimp only
      rw [Utf8Decoder.chars_flatMap_utf8EncodeChar]
      rfl
  show String.ofList ((Utf8Decoder.between false).chars (TextEncoder.encode s)).2 ++
    utf8.flush ((Utf8Decoder.between false).chars (TextEncoder.encode s)).1 = s
  rw [hchars]
  show String.ofList s.toList ++ "" = s
  rw [String.append_empty, String.ofList_toList]
