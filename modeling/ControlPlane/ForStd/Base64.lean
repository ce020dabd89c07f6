import Mathlib.Data.List.Basic

/-!
# Base64

`btoa` and `atob` of a JavaScript runtime, between bytes and the characters of a text.
Reading is forgiving: white space is skipped and padding may be left out.

## Key results

- `value_digit`: the value of a written digit
- `decode_encode`: bytes are read back from their text
- `isCode_of_decode`: what is read holds digits, padding and white space only
- `length_encode_le_of_decode`: writing again adds at most the padding
-/

namespace Base64

/-- The digit of a six-bit value. -/
def digit (n : Nat) : Char :=
  if n < 26 then Char.ofNat (65 + n)
  else if n < 52 then Char.ofNat (71 + n)
  else if n < 62 then Char.ofNat (n - 4)
  else if n = 62 then '+' else '/'

/-- The value of a digit. -/
def value (c : Char) : Option Nat :=
  let n := c.toNat
  if 65 ≤ n ∧ n ≤ 90 then some (n - 65)
  else if 97 ≤ n ∧ n ≤ 122 then some (n - 71)
  else if 48 ≤ n ∧ n ≤ 57 then some (n + 4)
  else if c = '+' then some 62
  else if c = '/' then some 63
  else none

/-- The padded text of bytes, three at a time. -/
def encode : List UInt8 → List Char
  | [] => []
  | [a] => [digit (a.toNat / 4), digit (a.toNat % 4 * 16), '=', '=']
  | [a, b] => [digit (a.toNat / 4), digit (a.toNat % 4 * 16 + b.toNat / 16),
      digit (b.toNat % 16 * 4), '=']
  | a :: b :: c :: rest => digit (a.toNat / 4) :: digit (a.toNat % 4 * 16 + b.toNat / 16) ::
      digit (b.toNat % 16 * 4 + c.toNat / 64) :: digit (c.toNat % 64) :: encode rest

/-- The text without the padding of its last group of four. -/
def stripPadding : List Char → List Char
  | [a, b, '=', '='] => [a, b]
  | [a, b, c, '='] => [a, b, c]
  | a :: b :: c :: d :: rest => a :: b :: c :: d :: stripPadding rest
  | cs => cs

/-- The bytes of six-bit values; bits short of a byte are dropped. -/
def bytes : List Nat → Option (List UInt8)
  | [] => some []
  | [_] => none
  | [a, b] => some [UInt8.ofNat (a * 4 + b / 16)]
  | [a, b, c] => some [UInt8.ofNat (a * 4 + b / 16), UInt8.ofNat (b % 16 * 16 + c / 4)]
  | a :: b :: c :: d :: rest => (bytes rest).map fun bs =>
      UInt8.ofNat (a * 4 + b / 16) :: UInt8.ofNat (b % 16 * 16 + c / 4) ::
        UInt8.ofNat (c % 4 * 64 + d) :: bs

/-- Tab, line feed, form feed, carriage return and space. -/
def isSpace (c : Char) : Bool :=
  c.toNat == 9 || c.toNat == 10 || c.toNat == 12 || c.toNat == 13 || c.toNat == 32

/-- The bytes of a text, `none` where it is not base64. -/
def decode (cs : List Char) : Option (List UInt8) :=
  ((stripPadding (cs.filter fun c => !isSpace c)).mapM value).bind bytes

/-- `btoa` of the string that has one character for each byte. -/
def btoa (bs : List UInt8) : String := String.ofList (encode bs)

/-- `atob`, as the bytes of the string it returns. -/
def atob (s : String) : Option (List UInt8) := decode s.toList

/-! ## Reading back -/

/-- Every digit is read back. -/
theorem value_digit : ∀ n < 64, value (digit n) = some n := by decide

/-- A digit is neither padding nor white space. -/
theorem digit_ne : ∀ n < 64, digit n ≠ '=' ∧ isSpace (digit n) = false := by decide

/-- Four characters without padding stay. -/
theorem stripPadding_cons {d : Char} (h : d ≠ '=') (a b c : Char) (rest : List Char) :
    stripPadding (a :: b :: c :: d :: rest) = a :: b :: c :: d :: stripPadding rest := by
  cases rest with
  | nil => simp [stripPadding, h]
  | cons e rest => simp [stripPadding]

/-- One padding character is stripped. -/
theorem stripPadding_three {c : Char} (h : c ≠ '=') (a b : Char) :
    stripPadding [a, b, c, '='] = [a, b, c] :=
  stripPadding.eq_2 a b c h

/-- A written text has no white space in it. -/
theorem isSpace_encode (bs : List UInt8) : ∀ c ∈ encode bs, isSpace c = false := by
  have hdigit (n : Nat) (h : n < 64) : isSpace (digit n) = false := (digit_ne n h).2
  have hpad : isSpace '=' = false := by decide
  induction bs using encode.induct with
  | case1 => intro c hc; cases hc
  -- one byte left over: two digits and two pads
  | case2 a =>
    have ha := a.toNat_lt
    intro c hc
    simp only [encode, List.mem_cons, List.not_mem_nil, or_false] at hc
    obtain rfl | rfl | rfl | rfl := hc
    · exact hdigit _ (by omega)
    · exact hdigit _ (by omega)
    · exact hpad
    · exact hpad
  -- two bytes left over: three digits and a pad
  | case3 a b =>
    have ha := a.toNat_lt
    have hb := b.toNat_lt
    intro c hc
    simp only [encode, List.mem_cons, List.not_mem_nil, or_false] at hc
    obtain rfl | rfl | rfl | rfl := hc
    · exact hdigit _ (by omega)
    · exact hdigit _ (by omega)
    · exact hdigit _ (by omega)
    · exact hpad
  -- a whole group of three, and the rest by induction
  | case4 a b c rest ih =>
    have ha := a.toNat_lt
    have hb := b.toNat_lt
    have hc := c.toNat_lt
    intro e he
    simp only [encode, List.mem_cons] at he
    obtain rfl | rfl | rfl | rfl | he := he
    · exact hdigit _ (by omega)
    · exact hdigit _ (by omega)
    · exact hdigit _ (by omega)
    · exact hdigit _ (by omega)
    · exact ih e he

/-- A byte is read back from its number. -/
theorem ofNat_eq {a : UInt8} {n : Nat} (h : n = a.toNat) : UInt8.ofNat n = a := by
  rw [h, UInt8.ofNat_toNat]

/-- The digits of bytes stand for their bytes. -/
theorem bytes_encode (bs : List UInt8) :
    ((stripPadding (encode bs)).mapM value).bind bytes = some bs := by
  induction bs using encode.induct with
  | case1 => rfl
  | case2 a =>
    have ha := a.toNat_lt
    simp only [encode, stripPadding, List.mapM_cons, List.mapM_nil, value_digit _ (show
      a.toNat / 4 < 64 by omega), value_digit _ (show a.toNat % 4 * 16 < 64 by omega)]
    -- the second digit holds the two low bits of the byte
    show some [UInt8.ofNat _] = _
    rw [ofNat_eq (show a.toNat / 4 * 4 + a.toNat % 4 * 16 / 16 = a.toNat by omega)]
  | case3 a b =>
    have ha := a.toNat_lt
    have hb := b.toNat_lt
    have hstrip : stripPadding (encode [a, b]) = [digit (a.toNat / 4),
        digit (a.toNat % 4 * 16 + b.toNat / 16), digit (b.toNat % 16 * 4)] :=
      stripPadding_three (digit_ne _ (by omega)).1 _ _
    simp only [hstrip, List.mapM_cons, List.mapM_nil,
      value_digit _ (show a.toNat / 4 < 64 by omega),
      value_digit _ (show a.toNat % 4 * 16 + b.toNat / 16 < 64 by omega),
      value_digit _ (show b.toNat % 16 * 4 < 64 by omega)]
    -- the middle digit is shared by both bytes
    show some [UInt8.ofNat _, UInt8.ofNat _] = _
    rw [ofNat_eq (a := a) (by omega), ofNat_eq (a := b) (by omega)]
  | case4 a b c rest ih =>
    have ha := a.toNat_lt
    have hb := b.toNat_lt
    have hc := c.toNat_lt
    -- the induction hypothesis reads the digits of the rest
    obtain ⟨values, hvalues, hbytes⟩ := Option.bind_eq_some_iff.mp ih
    rw [encode, stripPadding_cons (digit_ne _ (by omega)).1]
    simp only [List.mapM_cons, hvalues, value_digit _ (show a.toNat / 4 < 64 by omega),
      value_digit _ (show a.toNat % 4 * 16 + b.toNat / 16 < 64 by omega),
      value_digit _ (show b.toNat % 16 * 4 + c.toNat / 64 < 64 by omega),
      value_digit _ (show c.toNat % 64 < 64 by omega)]
    show (bytes values).map _ = _
    rw [hbytes, Option.map_some, ofNat_eq (a := a) (by omega), ofNat_eq (a := b) (by omega),
      ofNat_eq (a := c) (by omega)]

/-- Bytes are read back from their text. -/
theorem decode_encode (bs : List UInt8) : decode (encode bs) = some bs := by
  have hspace : (encode bs).filter (fun c => !isSpace c) = encode bs := by
    rw [List.filter_eq_self]
    intro c hc
    rw [isSpace_encode bs c hc]
    rfl
  rw [decode, hspace, bytes_encode]

/-- What is encoded is decoded again. -/
theorem atob_btoa (bs : List UInt8) : atob (btoa bs) = some bs := by
  rw [atob, btoa, String.toList_ofList, decode_encode]

example : atob "aGk" = some [104, 105] := by decide

/-! ## What can be read -/

/-- A digit, or padding. -/
def isCode (c : Char) : Bool := c == '=' || (value c).isSome

/-- A character is kept, or it was padding. -/
theorem mem_stripPadding {c : Char} {cs : List Char} (h : c ∈ cs) :
    c ∈ stripPadding cs ∨ c = '=' := by
  fun_induction stripPadding cs with
  | case1 a b => simpa [or_assoc] using h
  | case2 a b d _ => simpa [or_assoc] using h
  | case3 a b d e rest _ _ ih =>
    simp only [List.mem_cons] at h ⊢
    tauto
  | case4 cs => exact .inl h

/-- A list all of whose characters are read has as many values. -/
theorem mem_of_mapM {f : Char → Option Nat} {cs : List Char} {vs : List Nat}
    (h : cs.mapM f = some vs) : cs.length = vs.length ∧ ∀ c ∈ cs, (f c).isSome := by
  induction cs generalizing vs with
  | nil =>
    obtain rfl := Option.some.inj h
    exact ⟨rfl, fun c hc => by cases hc⟩
  -- a list is read where its first character and its rest are
  | cons c cs ih =>
    rw [List.mapM_cons] at h
    obtain ⟨v, hv, h⟩ := Option.bind_eq_some_iff.mp h
    obtain ⟨vs, hvs, h⟩ := Option.bind_eq_some_iff.mp h
    obtain rfl := Option.some.inj h
    obtain ⟨hlength, hsome⟩ := ih hvs
    constructor
    · rw [List.length_cons, List.length_cons, hlength]
    · intro d hd
      cases hd with
      | head => rw [hv]; rfl
      | tail _ hd => exact hsome d hd

/-- Only digits, padding and white space are read. -/
theorem isCode_of_decode {cs : List Char} {bs : List UInt8} (h : decode cs = some bs) :
    ∀ c ∈ cs, isSpace c = true ∨ isCode c = true := by
  obtain ⟨vs, hvs, -⟩ := Option.bind_eq_some_iff.mp h
  intro c hc
  cases hspace : isSpace c with
  | true => exact .inl rfl
  | false =>
    right
    have hkept : c ∈ cs.filter fun c => !isSpace c := by simp [hc, hspace]
    cases mem_stripPadding hkept with
    | inl hmem => simp [isCode, (mem_of_mapM hvs).2 c hmem]
    | inr hpad => simp [isCode, hpad]

/-- An encoding consists of code characters. -/
theorem isCode_encode (bs : List UInt8) : ∀ c ∈ encode bs, isCode c = true := by
  intro c hc
  cases isCode_of_decode (decode_encode bs) c hc with
  | inl hspace => rw [isSpace_encode bs c hc] at hspace; cases hspace
  | inr hcode => exact hcode

/-- Printable ASCII. -/
theorem toNat_of_value {c : Char} (h : (value c).isSome = true) : 32 < c.toNat ∧ c.toNat < 128 := by
  unfold value at h
  dsimp only at h
  split at h
  · omega
  split at h
  · omega
  split at h
  · omega
  split at h
  next heq => rw [heq]; decide
  split at h
  next heq => rw [heq]; decide
  next => cases h

/-- Code characters are printable ASCII. -/
theorem toNat_of_isCode {c : Char} (h : isCode c = true) : 32 < c.toNat ∧ c.toNat < 128 := by
  unfold isCode at h
  by_cases heq : c = '='
  · rw [heq]
    decide
  · rw [beq_eq_false_iff_ne.mpr heq, Bool.false_or] at h
    exact toNat_of_value h

/-! ## Writing again -/

/-- Stripping never lengthens a text. -/
theorem length_stripPadding_le (cs : List Char) : (stripPadding cs).length ≤ cs.length := by
  fun_induction stripPadding cs with
  | case1 a b => simp
  | case2 a b d _ => simp
  | case3 a b d e rest _ _ ih =>
    simp only [List.length_cons]
    omega
  | case4 cs => exact Nat.le_refl _

/-- Encoding decoded values again is at most two characters longer. -/
theorem length_encode_le {vs : List Nat} {bs : List UInt8} (h : bytes vs = some bs) :
    (encode bs).length ≤ vs.length + 2 := by
  induction vs using bytes.induct generalizing bs with
  | case1 => obtain rfl := Option.some.inj h; simp [encode]
  | case2 => cases h
  | case3 a b => obtain rfl := Option.some.inj h; simp [encode]
  | case4 a b c => obtain rfl := Option.some.inj h; simp [encode]
  | case5 a b c d rest ih =>
    obtain ⟨bs, hbs, rfl⟩ := Option.map_eq_some_iff.mp h
    have hrest := ih hbs
    simp only [encode, List.length_cons]
    omega

/-- The canonical text is at most two characters of padding longer. -/
theorem length_encode_le_of_decode {cs : List Char} {bs : List UInt8} (h : decode cs = some bs) :
    (encode bs).length ≤ cs.length + 2 := by
  obtain ⟨vs, hvs, hbytes⟩ := Option.bind_eq_some_iff.mp h
  have hencode := length_encode_le hbytes
  have hvalues := (mem_of_mapM hvs).1
  have hstrip := length_stripPadding_le (cs.filter fun c => !isSpace c)
  have hfilter := List.length_filter_le (fun c => !isSpace c) cs
  omega

/-! ## Padding -/

/-- A text is digits and up to two characters of padding, in groups of four. -/
theorem encode_padding (bs : List UInt8) : ∃ ds k, encode bs = ds ++ List.replicate k '=' ∧
    (∀ c ∈ ds, (value c).isSome = true) ∧ k < 3 ∧ (ds.length + k) % 4 = 0 := by
  have hdigit (n : Nat) (h : n < 64) : (value (digit n)).isSome = true := by
    rw [value_digit n h]
    rfl
  induction bs using encode.induct with
  | case1 => exact ⟨[], 0, rfl, by simp, by decide, rfl⟩
  -- one byte left: two digits and two pads
  | case2 a =>
    have ha := a.toNat_lt
    refine ⟨[digit (a.toNat / 4), digit (a.toNat % 4 * 16)], 2, rfl, ?_, by decide, by simp⟩
    intro c hc
    simp only [List.mem_cons, List.not_mem_nil, or_false] at hc
    obtain rfl | rfl := hc
    · exact hdigit _ (by omega)
    · exact hdigit _ (by omega)
  -- two bytes left: three digits and one pad
  | case3 a b =>
    have ha := a.toNat_lt
    have hb := b.toNat_lt
    refine ⟨[digit (a.toNat / 4), digit (a.toNat % 4 * 16 + b.toNat / 16),
      digit (b.toNat % 16 * 4)], 1, rfl, ?_, by decide, by simp⟩
    intro c hc
    simp only [List.mem_cons, List.not_mem_nil, or_false] at hc
    obtain rfl | rfl | rfl := hc
    · exact hdigit _ (by omega)
    · exact hdigit _ (by omega)
    · exact hdigit _ (by omega)
  -- three whole bytes: four digits, and the padding of the rest
  | case4 a b c rest ih =>
    have ha := a.toNat_lt
    have hb := b.toNat_lt
    have hc := c.toNat_lt
    obtain ⟨ds, k, hencode, hds, hk, hlen⟩ := ih
    refine ⟨digit (a.toNat / 4) :: digit (a.toNat % 4 * 16 + b.toNat / 16) ::
      digit (b.toNat % 16 * 4 + c.toNat / 64) :: digit (c.toNat % 64) :: ds, k, ?_, ?_, hk, ?_⟩
    · rw [encode, hencode]
      rfl
    · intro e he
      simp only [List.mem_cons] at he
      obtain rfl | rfl | rfl | rfl | he := he
      · exact hdigit _ (by omega)
      · exact hdigit _ (by omega)
      · exact hdigit _ (by omega)
      · exact hdigit _ (by omega)
      · exact hds e he
    · simp only [List.length_cons]
      omega

/-- Three bytes take four characters. -/
theorem length_encode (bs : List UInt8) : (encode bs).length = 4 * ((bs.length + 2) / 3) := by
  induction bs using encode.induct with
  | case1 => rfl
  | case2 a => simp [encode]
  | case3 a b => simp [encode]
  | case4 a b c rest ih =>
    simp only [encode, List.length_cons, ih]
    omega

/-- The padding fills the last group. -/
theorem count_encode (bs : List UInt8) : (encode bs).count '=' = (3 - bs.length % 3) % 3 := by
  have hne {n : Nat} (h : n < 64) : (digit n == '=') = false := beq_eq_false_iff_ne.mpr (digit_ne n h).1
  -- along the encoder: no digit is a pad, so only the last group counts
  induction bs using encode.induct with
  | case1 => rfl
  | case2 a =>
    have ha := a.toNat_lt
    simp [encode, List.count_cons, hne (show a.toNat / 4 < 64 by omega),
      hne (show a.toNat % 4 * 16 < 64 by omega)]
  | case3 a b =>
    have ha := a.toNat_lt
    have hb := b.toNat_lt
    simp [encode, List.count_cons, hne (show a.toNat / 4 < 64 by omega),
      hne (show a.toNat % 4 * 16 + b.toNat / 16 < 64 by omega),
      hne (show b.toNat % 16 * 4 < 64 by omega)]
  | case4 a b c rest ih =>
    have ha := a.toNat_lt
    have hb := b.toNat_lt
    have hc := c.toNat_lt
    simp only [encode, List.count_cons, ih, hne (show a.toNat / 4 < 64 by omega),
      hne (show a.toNat % 4 * 16 + b.toNat / 16 < 64 by omega),
      hne (show b.toNat % 16 * 4 + c.toNat / 64 < 64 by omega),
      hne (show c.toNat % 64 < 64 by omega), List.length_cons, Bool.false_eq_true, if_false]
    omega

end Base64
