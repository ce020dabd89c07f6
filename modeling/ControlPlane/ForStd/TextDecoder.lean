import Mathlib.Data.String.Basic

/-!
# Streaming text decoders

A decoder turns bytes into text a chunk at a time, keeping an incomplete character for
the next chunk, and is flushed when the bytes end. `Lawful` says that how the bytes are
cut does not matter. `utf8` is the decoder of the encoding standard: errors become
U+FFFD, a leading byte order mark is dropped.

## Key results

- `decodeAll_flatten`: the chunks of a stream decode to the text of the whole stream
- `utf8_lawful`: the UTF-8 decoder does not see how its input is cut
-/

/-- `new TextDecoder()`: its state between chunks, `decode(chunk, { stream: true })`, and
    the `decode()` that ends the text. -/
structure TextDecoder where
  State : Type
  start : State
  decode : State → List UInt8 → State × String
  flush : State → String

namespace TextDecoder

variable (d : TextDecoder)

/-- What a platform's decoder promises: no bytes give no text, two chunks give the text of
    the chunks as one, and an unfinished character is not a line break. -/
structure Lawful : Prop where
  decode_nil : ∀ s, d.decode s [] = (s, "")
  decode_append : ∀ s xs ys, d.decode s (xs ++ ys) =
    ((d.decode (d.decode s xs).1 ys).1, (d.decode s xs).2 ++ (d.decode (d.decode s xs).1 ys).2)
  newline_not_mem_flush : ∀ s, '\n' ∉ (d.flush s).toList

/-- Decode one chunk after the other. -/
def decodeAll : d.State → List (List UInt8) → d.State × List String
  | s, [] => (s, [])
  | s, chunk :: chunks =>
    let decoded := d.decode s chunk
    let rest := decodeAll decoded.1 chunks
    (rest.1, decoded.2 :: rest.2)

/-- The text of a whole byte stream. -/
def text (bytes : List UInt8) : String :=
  (d.decode d.start bytes).2 ++ d.flush (d.decode d.start bytes).1

variable {d}

/-- However a stream is cut, its chunks decode to the text of the whole. -/
theorem decodeAll_flatten (hd : d.Lawful) (s : d.State) (chunks : List (List UInt8)) :
    d.decode s chunks.flatten =
      ((d.decodeAll s chunks).1, String.join (d.decodeAll s chunks).2) := by
  induction chunks generalizing s with
  | nil => exact hd.decode_nil s
  | cons chunk chunks ih =>
    rw [List.flatten_cons, hd.decode_append, ih]
    simp [decodeAll, String.join_cons]

end TextDecoder

/-! ## UTF-8 -/

/-- The UTF-8 decoder between two bytes: the code point so far, how many bytes of it are
    still to come, the bounds of the next one, and whether a character has been put out. -/
structure Utf8Decoder where
  codePoint : Nat
  bytesNeeded : Nat
  lower : Nat
  upper : Nat
  bomSeen : Bool
deriving Repr, DecidableEq

namespace Utf8Decoder

/-- Between two characters. -/
def start : Utf8Decoder := ⟨0, 0, 0x80, 0xBF, false⟩

/-- Ready for the next character. -/
def reset (s : Utf8Decoder) : Utf8Decoder := { start with bomSeen := s.bomSeen }

/-- Put a character out: a byte order mark in front of all others is dropped. -/
def put (s : Utf8Decoder) (c : Char) : Utf8Decoder × List Char :=
  ({ s with bomSeen := true }, if !s.bomSeen && c.toNat == 0xFEFF then [] else [c])

/-- The first byte of a character. -/
def firstByte (s : Utf8Decoder) (byte : Nat) : Utf8Decoder × List Char :=
  if byte ≤ 0x7F then s.put (Char.ofNat byte)
  else if 0xC2 ≤ byte ∧ byte ≤ 0xDF then
    ({ s with bytesNeeded := 1, codePoint := byte % 0x20 }, [])
  else if 0xE0 ≤ byte ∧ byte ≤ 0xEF then
    ({ s with
      bytesNeeded := 2
      codePoint := byte % 0x10
      lower := if byte = 0xE0 then 0xA0 else s.lower
      upper := if byte = 0xED then 0x9F else s.upper }, [])
  else if 0xF0 ≤ byte ∧ byte ≤ 0xF4 then
    ({ s with
      bytesNeeded := 3
      codePoint := byte % 0x8
      lower := if byte = 0xF0 then 0x90 else s.lower
      upper := if byte = 0xF4 then 0x8F else s.upper }, [])
  else s.put '\uFFFD'

/-- One byte. -/
def step (s : Utf8Decoder) (byte : Nat) : Utf8Decoder × List Char :=
  if s.bytesNeeded = 0 then s.firstByte byte
  else if s.lower ≤ byte ∧ byte ≤ s.upper then
    let codePoint := s.codePoint * 0x40 + byte % 0x40
    if s.bytesNeeded = 1 then s.reset.put (Char.ofNat codePoint)
    else
      ({ s with
        codePoint := codePoint
        bytesNeeded := s.bytesNeeded - 1
        lower := 0x80
        upper := 0xBF }, [])
  else
    -- the character is broken off, and the byte begins the next one
    let broken := s.reset.put '\uFFFD'
    let next := broken.1.firstByte byte
    (next.1, broken.2 ++ next.2)

/-- The characters of some bytes, and what is left of the last one. -/
def chars : Utf8Decoder → List UInt8 → Utf8Decoder × List Char
  | s, [] => (s, [])
  | s, byte :: bytes =>
    let next := s.step byte.toNat
    let rest := chars next.1 bytes
    (rest.1, next.2 ++ rest.2)

theorem chars_append (s : Utf8Decoder) (xs ys : List UInt8) :
    s.chars (xs ++ ys) =
      (((s.chars xs).1.chars ys).1, (s.chars xs).2 ++ ((s.chars xs).1.chars ys).2) := by
  induction xs generalizing s with
  | nil => rfl
  | cons x xs ih =>
    rw [List.cons_append, chars, ih, chars, List.append_assoc]

end Utf8Decoder

namespace TextDecoder

/-- `new TextDecoder()` with its defaults. -/
def utf8 : TextDecoder where
  State := Utf8Decoder
  start := .start
  decode s bytes := ((s.chars bytes).1, String.ofList (s.chars bytes).2)
  flush s := if s.bytesNeeded = 0 then "" else "\uFFFD"

/-- The UTF-8 decoder works byte by byte, so it does not see where its input is cut. -/
theorem utf8_lawful : utf8.Lawful where
  decode_nil _ := rfl
  decode_append s xs ys := by
    have hchars := Utf8Decoder.chars_append s xs ys
    show ((Utf8Decoder.chars s (xs ++ ys)).1, String.ofList (Utf8Decoder.chars s (xs ++ ys)).2) = _
    rw [hchars, String.ofList_append]
    rfl
  newline_not_mem_flush s := by
    show '\n' ∉ (if s.bytesNeeded = 0 then "" else "\uFFFD").toList
    split <;> decide

example : utf8.text [0xEF, 0xBB, 0xBF, 0x48, 0xC3, 0xA9, 0xE2, 0x82] = "Hé\uFFFD" := by
  decide +kernel

end TextDecoder

/-! ## Writing UTF-8 -/

/-- `new TextEncoder().encode(s)`. -/
def TextEncoder.encode (s : String) : List UInt8 := s.toList.flatMap String.utf8EncodeChar

/-- Different texts have different bytes. -/
theorem TextEncoder.encode_injective : Function.Injective TextEncoder.encode := by
  intro s t h
  have hbytes : s.toList.utf8Encode = t.toList.utf8Encode := congrArg List.toByteArray h
  rw [String.utf8Encode_toList, String.utf8Encode_toList] at hbytes
  exact String.toByteArray_inj.mp hbytes

/-- A character of ASCII is one byte, which the decoder puts out at once. -/
theorem Utf8Decoder.step_ascii {s : Utf8Decoder} (hs : s.bytesNeeded = 0) {c : Char}
    (hc : c.toNat < 0x80) :
    s.step (UInt8.ofNat c.toNat).toNat = ({ s with bomSeen := true }, [c]) := by
  have hbyte : (UInt8.ofNat c.toNat).toNat = c.toNat := by
    rw [UInt8.toNat_ofNat']
    exact Nat.mod_eq_of_lt (by omega)
  have hbom : (c.toNat == 0xFEFF) = false := beq_eq_false_iff_ne.mpr (by omega)
  rw [hbyte, step, if_pos hs, firstByte, if_pos (by omega), put, Char.ofNat_toNat, hbom,
    Bool.and_false]
  rfl

theorem Utf8Decoder.chars_ascii {s : Utf8Decoder} (hs : s.bytesNeeded = 0) {cs : List Char}
    (hcs : ∀ c ∈ cs, c.toNat < 0x80) :
    (s.chars (cs.map fun c => UInt8.ofNat c.toNat)).1.bytesNeeded = 0 ∧
      (s.chars (cs.map fun c => UInt8.ofNat c.toNat)).2 = cs := by
  induction cs generalizing s with
  | nil => exact ⟨hs, rfl⟩
  | cons c cs ih =>
    have hstep := step_ascii hs (hcs c List.mem_cons_self)
    have hrest := ih (s := { s with bomSeen := true }) hs
      fun d hd => hcs d (List.mem_cons_of_mem c hd)
    rw [List.map_cons, chars, hstep]
    exact ⟨hrest.1, congrArg (List.cons c) hrest.2⟩

/-- ASCII text is read back from its bytes. -/
theorem TextDecoder.text_encode_ascii {s : String} (h : ∀ c ∈ s.toList, c.toNat < 0x80) :
    utf8.text (TextEncoder.encode s) = s := by
  -- every character is one byte
  have hbytes : TextEncoder.encode s = s.toList.map fun c => UInt8.ofNat c.toNat := by
    unfold TextEncoder.encode
    rw [List.map_eq_flatMap]
    apply List.flatMap_congr
    intro c hc
    have hsmall : c.val.toNat ≤ 0x7f := Nat.le_of_lt_succ (h c hc)
    unfold String.utf8EncodeChar
    dsimp only
    rw [if_pos hsmall]
    rfl
  obtain ⟨hneeded, hchars⟩ := Utf8Decoder.chars_ascii (s := Utf8Decoder.start) rfl h
  rw [← hbytes] at hneeded hchars
  -- and no byte is waited for at the end
  have hflush : utf8.flush (Utf8Decoder.start.chars (TextEncoder.encode s)).1 = "" := if_pos hneeded
  show String.ofList (Utf8Decoder.start.chars (TextEncoder.encode s)).2 ++
    utf8.flush (Utf8Decoder.start.chars (TextEncoder.encode s)).1 = s
  rw [hflush, hchars, String.append_empty, String.ofList_toList]
