import ControlPlane.ForStd.BigEndian

/-!
# DER values

Tag, length and content of a value with a definite length: what a reader may find, and
what the canonical encoder writes.

## Key results

- `isTlv_tlv`: what is written is a value
- `value_integer`: the content of an INTEGER spells its number
-/

namespace Der

/-- The bytes of a length: one below 128, or a count and at most four digits. -/
def IsLength (n : Nat) : List UInt8 → Prop
  | [] => False
  | first :: digits =>
    if first < 0x80 then digits = [] ∧ n = first.toNat
    else first.toNat = 0x80 + digits.length ∧ 0 < digits.length ∧ digits.length ≤ 4 ∧
      n = BigEndian.value digits

/-- The bytes of a value with a tag and a content. -/
def IsTlv (tag : UInt8) (content bytes : List UInt8) : Prop :=
  ∃ length, IsLength content.length length ∧ bytes = tag :: (length ++ content)

/-! ## The canonical encoder -/

/-- The shortest bytes of a length. -/
def length (n : Nat) : List UInt8 :=
  if n < 0x80 then [UInt8.ofNat n]
  else UInt8.ofNat (0x80 + (BigEndian.minimal n).length) :: BigEndian.minimal n

/-- An element: its tag, its length and its content. -/
def tlv (tag : UInt8) (content : List UInt8) : List UInt8 :=
  tag :: (length content.length ++ content)

/-- A zero goes before a first byte that would read as a sign. -/
def signPad : List UInt8 → List UInt8
  | [] => [0]
  | first :: bytes => if first < 0x80 then first :: bytes else 0 :: first :: bytes

/-- The content of an INTEGER that is not negative. -/
def integer (n : Nat) : List UInt8 := signPad (BigEndian.minimal n)

theorem isLength_length {n : Nat} (h : n < 256 ^ 4) : IsLength n (length n) := by
  unfold length
  split
  -- one byte below 0x80 is the length itself
  next hshort =>
    have hbyte : (UInt8.ofNat n).toNat = n := by
      rw [UInt8.toNat_ofNat']
      omega
    have hlt : UInt8.ofNat n < 0x80 := by
      rw [UInt8.lt_iff_toNat_lt, hbyte]
      exact hshort
    rw [IsLength, if_pos hlt]
    exact ⟨rfl, hbyte.symm⟩
  -- 0x80 and the number of length bytes, of which four are enough
  next hlong =>
    have hpos : 0 < (BigEndian.minimal n).length :=
      List.length_pos_iff.mpr (BigEndian.minimal_ne_nil (by omega))
    have hfour := BigEndian.length_minimal_le h
    have hbyte : (UInt8.ofNat (0x80 + (BigEndian.minimal n).length)).toNat =
        0x80 + (BigEndian.minimal n).length := by
      rw [UInt8.toNat_ofNat']
      omega
    have hge : ¬ UInt8.ofNat (0x80 + (BigEndian.minimal n).length) < 0x80 := by
      rw [UInt8.lt_iff_toNat_lt, hbyte]
      show ¬ _ < 128
      omega
    rw [IsLength, if_neg hge]
    exact ⟨hbyte, hpos, hfour, (BigEndian.value_minimal n).symm⟩

/-- What is written is a value, when its length fits in four bytes. -/
theorem isTlv_tlv (tag : UInt8) {content : List UInt8} (h : content.length < 256 ^ 4) :
    IsTlv tag content (tlv tag content) := ⟨_, isLength_length h, rfl⟩

theorem signPad_ne_nil (bytes : List UInt8) : signPad bytes ≠ [] := by
  cases bytes with
  | nil => exact List.cons_ne_nil _ _
  | cons b bs =>
    rw [signPad]
    split <;> exact List.cons_ne_nil _ _

theorem value_signPad (bytes : List UInt8) :
    BigEndian.value (signPad bytes) = BigEndian.value bytes := by
  cases bytes with
  | nil => rfl
  | cons b bs =>
    rw [signPad]
    split
    · rfl
    · exact BigEndian.value_replicate_append 1 (b :: bs)

theorem integer_ne_nil (n : Nat) : integer n ≠ [] := signPad_ne_nil _

/-- The content of an INTEGER spells its number. -/
theorem value_integer (n : Nat) : BigEndian.value (integer n) = n := by
  rw [integer, value_signPad, BigEndian.value_minimal]

end Der
