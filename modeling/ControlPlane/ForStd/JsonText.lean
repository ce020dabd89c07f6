import ControlPlane.ForStd.Utf16
import Mathlib.Algebra.Field.Rat
import Mathlib.Data.Int.Cast.Lemmas
import Mathlib.Data.List.Nodup

/-!
# JSON text

`JSON.stringify` and `JSON.parse`: values whose strings are JavaScript strings and
whose numbers are rationals, the text of a value, and a reader of texts.

The writer escapes what JSON requires and every surrogate that stands alone, puts no
space anywhere, and writes an integer as its digits. The reader takes any JSON text;
of fields with one name it keeps the last value.

## Key results

- `readString_quote`: a string is read back from its quoted text
- `readValue_stringify`: a value is read back from its text, whatever follows
- `parse_stringify`: the whole text of a value is the value
-/

namespace JsonText

/-- A JavaScript string: its UTF-16 code units. -/
abbrev JsStr := List UInt16

/-- A JSON value. -/
inductive Value where
  | null
  | bool (value : Bool)
  | num (value : Rat)
  | str (value : JsStr)
  | arr (items : List Value)
  | obj (fields : List (JsStr × Value))

/-! ## Writing -/

/-- A hexadecimal digit, in lower case. -/
def hexDigit (n : Nat) : Char := Nat.digitChar n

/-- The four hexadecimal digits of a unit. -/
def hex4 (u : UInt16) : List Char :=
  [hexDigit (u.toNat / 4096), hexDigit (u.toNat / 256 % 16), hexDigit (u.toNat / 16 % 16),
    hexDigit (u.toNat % 16)]

/-- How one unit that is not half of a pair is written inside a string. -/
def escapeUnit (u : UInt16) : List Char :=
  if u.toNat = 0x22 then ['\\', '"']
  else if u.toNat = 0x5C then ['\\', '\\']
  else if u.toNat = 8 then ['\\', 'b']
  else if u.toNat = 9 then ['\\', 't']
  else if u.toNat = 10 then ['\\', 'n']
  else if u.toNat = 12 then ['\\', 'f']
  else if u.toNat = 13 then ['\\', 'r']
  else if u.toNat < 0x20 || Utf16.isSurrogate u then '\\' :: 'u' :: hex4 u
  else [Char.ofNat u.toNat]

/-- The text of a string between its quotes. -/
def escape : JsStr → List Char
  | [] => []
  | [u] => escapeUnit u
  | u :: v :: us =>
    if Utf16.isHigh u && Utf16.isLow v then Utf16.pair u v :: escape us
    else escapeUnit u ++ escape (v :: us)

/-- `JSON.stringify` of a string. -/
def quote (s : JsStr) : List Char := '"' :: (escape s ++ ['"'])

/-- The digits of a natural number. -/
def natText (n : Nat) : List Char := Nat.toDigits 10 n

/-- The digits of an integer, with its sign. -/
def intText (n : Int) : List Char :=
  if n < 0 then '-' :: natText n.natAbs else natText n.natAbs

/-- The fewest decimals that write a rational, looked for up to the length of its denominator. -/
def decimals (q : Rat) : Nat :=
  ((List.range (q.den.log2 + 1)).find? (fun k => (q * 10 ^ k).den = 1)).getD 0

/-- The digits of the fraction of a rational, padded to its decimals. -/
def fractionText (q : Rat) : List Char :=
  let digits := natText ((q * 10 ^ decimals q).num.natAbs % 10 ^ decimals q)
  List.replicate (decimals q - digits.length) '0' ++ digits

/-- `Number.prototype.toString`, without the exponent it takes at 1e21 and below 1e-6. -/
def numText (q : Rat) : List Char :=
  if q.den = 1 then intText q.num
  else (if q.num < 0 then ['-'] else []) ++ natText (q.num.natAbs / q.den) ++ '.' :: fractionText q

mutual

/-- `JSON.stringify`. -/
def stringify : Value → List Char
  | .null => "null".toList
  | .bool true => "true".toList
  | .bool false => "false".toList
  | .num q => numText q
  | .str s => quote s
  | .arr items => '[' :: (stringifyItems items ++ [']'])
  | .obj fields => '\x7b' :: (stringifyFields fields ++ ['\x7d'])

/-- The items of an array between its brackets. -/
def stringifyItems : List Value → List Char
  | [] => []
  | [v] => stringify v
  | v :: w :: vs => stringify v ++ ',' :: stringifyItems (w :: vs)

/-- The fields of an object between its braces. -/
def stringifyFields : List (JsStr × Value) → List Char
  | [] => []
  | [(name, v)] => quote name ++ ':' :: stringify v
  | (name, v) :: f :: fs => quote name ++ ':' :: (stringify v ++ ',' :: stringifyFields (f :: fs))

end

/-! ## Reading -/

/-- Whitespace between tokens. -/
def isSpace (c : Char) : Bool := c == ' ' || c == '\n' || c == '\r' || c == '\t'

/-- The text behind its white space. -/
def skipSpace (cs : List Char) : List Char := cs.dropWhile isSpace

/-- Where the reader of a string stands. -/
inductive StringMode where
  | plain
  /-- After a backslash. -/
  | escaped
  /-- Inside `\uXXXX`: digits still to come, and the number so far. -/
  | hex (left acc : Nat)

/-- The unit of a one-letter escape. -/
def simpleEscape (c : Char) : Option UInt16 :=
  if c = '"' then some 0x22
  else if c = '\\' then some 0x5C
  else if c = '/' then some 0x2F
  else if c = 'b' then some 8
  else if c = 'f' then some 12
  else if c = 'n' then some 10
  else if c = 'r' then some 13
  else if c = 't' then some 9
  else none

/-- The value of a hexadecimal digit, in either case. -/
def hexValue (c : Char) : Option Nat :=
  if '0' ≤ c ∧ c ≤ '9' then some (c.toNat - 48)
  else if 'a' ≤ c ∧ c ≤ 'f' then some (c.toNat - 87)
  else if 'A' ≤ c ∧ c ≤ 'F' then some (c.toNat - 55)
  else none

/-- Units in front of a string that was read. -/
def prepend (us : JsStr) (read : Option (JsStr × List Char)) : Option (JsStr × List Char) :=
  read.map (fun p => (us ++ p.1, p.2))

/-- Read a string after its opening quote, and what follows its closing one. -/
def readString : StringMode → List Char → Option (JsStr × List Char)
  | _, [] => none
  | .plain, c :: cs =>
    if c = '"' then some ([], cs)
    else if c = '\\' then readString .escaped cs
    else if c.toNat < 0x20 then none
    else prepend (Utf16.encodeChar c) (readString .plain cs)
  | .escaped, c :: cs =>
    if c = 'u' then readString (.hex 4 0) cs
    else
      match simpleEscape c with
      | some u => prepend [u] (readString .plain cs)
      | none => none
  | .hex left acc, c :: cs =>
    match hexValue c with
    | none => none
    | some d =>
      if left = 1 then prepend [UInt16.ofNat (16 * acc + d)] (readString .plain cs)
      else readString (.hex (left - 1) (16 * acc + d)) cs

/-- Digits in front of a text: their number, and what follows. -/
def spanDigits (cs : List Char) : List Char × List Char :=
  (cs.takeWhile Char.isDigit, cs.dropWhile Char.isDigit)

/-- The integer part of a number: digits without a leading zero. -/
def readNat (cs : List Char) : Option (Nat × List Char) :=
  match spanDigits cs with
  | ([], _) => none
  | (d :: ds, rest) =>
    if d = '0' ∧ ds ≠ [] then none else some (Nat.ofDigitChars 10 (d :: ds) 0, rest)

/-- The fraction of a number, as the digits after the point. -/
def readFraction (cs : List Char) : Option (List Char × List Char) :=
  match cs with
  | '.' :: rest =>
    match spanDigits rest with
    | ([], _) => none
    | (ds, rest) => some (ds, rest)
  | _ => some ([], cs)

/-- The exponent of a number. -/
def readExponent (cs : List Char) : Option (Int × List Char) :=
  match cs with
  | c :: rest =>
    if c = 'e' ∨ c = 'E' then
      let (sign, rest) : Int × List Char := match rest with
        | '+' :: rest => (1, rest)
        | '-' :: rest => (-1, rest)
        | rest => (1, rest)
      match spanDigits rest with
      | ([], _) => none
      | (ds, rest) => some (sign * (Nat.ofDigitChars 10 ds 0 : Int), rest)
    else some (0, cs)
  | [] => some (0, [])

/-- A number without its sign. -/
def readUnsigned (cs : List Char) : Option (Rat × List Char) :=
  match readNat cs with
  | none => none
  | some (whole, cs) =>
    match readFraction cs with
    | none => none
    | some (fraction, cs) =>
      match readExponent cs with
      | none => none
      | some (exponent, cs) =>
        some ((Nat.ofDigitChars 10 fraction whole : Rat) * 10 ^ (exponent - fraction.length), cs)

/-- A number. -/
def readNumber (cs : List Char) : Option (Rat × List Char) :=
  match cs with
  | '-' :: rest => (readUnsigned rest).map (fun p => (-p.1, p.2))
  | rest => readUnsigned rest

/-- Set a field: of two with one name the first place and the last value stay. -/
def setField (fields : List (JsStr × Value)) (name : JsStr) (v : Value) : List (JsStr × Value) :=
  if fields.any (fun f => f.1 == name) then
    fields.map (fun f => if f.1 = name then (name, v) else f)
  else fields ++ [(name, v)]

/-- The rest of a literal whose first letter was read. -/
def readWord (word cs : List Char) : Option (List Char) :=
  if word.isPrefixOf cs then some (cs.drop word.length) else none

mutual

/-- Read one value in front of a text. -/
def readValue : Nat → List Char → Option (Value × List Char)
  | 0, _ => none
  | fuel + 1, cs =>
    match skipSpace cs with
    | [] => none
    | c :: rest =>
      if c = 'n' then (readWord "ull".toList rest).map (fun rest => (.null, rest))
      else if c = 't' then (readWord "rue".toList rest).map (fun rest => (.bool true, rest))
      else if c = 'f' then (readWord "alse".toList rest).map (fun rest => (.bool false, rest))
      else if c = '"' then (readString .plain rest).map (fun p => (.str p.1, p.2))
      else if c = '[' then
        if (skipSpace rest).head? = some ']' then some (.arr [], (skipSpace rest).tail)
        else (readItems fuel rest).map (fun p => (.arr p.1, p.2))
      else if c = '\x7b' then
        if (skipSpace rest).head? = some '\x7d' then some (.obj [], (skipSpace rest).tail)
        else (readFields fuel [] rest).map (fun p => (.obj p.1, p.2))
      else (readNumber (c :: rest)).map (fun p => (.num p.1, p.2))

/-- Read the items of an array, and its closing bracket. -/
def readItems : Nat → List Char → Option (List Value × List Char)
  | 0, _ => none
  | fuel + 1, cs =>
    match readValue fuel cs with
    | none => none
    | some (v, rest) =>
      match skipSpace rest with
      | ',' :: rest => (readItems fuel rest).map (fun p => (v :: p.1, p.2))
      | ']' :: rest => some ([v], rest)
      | _ => none

/-- Read the fields of an object onto those already read, and its closing brace. -/
def readFields : Nat → List (JsStr × Value) → List Char →
    Option (List (JsStr × Value) × List Char)
  | 0, _, _ => none
  | fuel + 1, fields, cs =>
    match skipSpace cs with
    | '"' :: rest =>
      match readString .plain rest with
      | none => none
      | some (name, rest) =>
        match skipSpace rest with
        | ':' :: rest =>
          match readValue fuel rest with
          | none => none
          | some (v, rest) =>
            match skipSpace rest with
            | ',' :: rest => readFields fuel (setField fields name v) rest
            | '\x7d' :: rest => some (setField fields name v, rest)
            | _ => none
        | _ => none
    | _ => none

end

/-- `JSON.parse`, `none` where it throws. A value consumes a character at every second
    step of the reader at least, which is what the fuel allows for. -/
def parse (text : List Char) : Option Value :=
  match readValue (2 * text.length + 2) text with
  | some (v, rest) => if skipSpace rest = [] then some v else none
  | none => none

/-! ## Strings read back -/

/-- A hex digit is read back. -/
theorem hexValue_hexDigit : ∀ n < 16, hexValue (hexDigit n) = some n := by decide

/-- A character that is written as it is, is read as its units. -/
theorem readString_char {c : Char} (hquote : c ≠ '"') (hslash : c ≠ '\\') (hctrl : 0x20 ≤ c.toNat)
    (cs : List Char) : readString .plain (c :: cs) =
      prepend (Utf16.encodeChar c) (readString .plain cs) := by
  rw [readString, if_neg hquote, if_neg hslash, if_neg (by omega)]

/-- A short escape is read back. -/
theorem readString_simple {c : Char} {u : UInt16} (hc : c ≠ 'u') (h : simpleEscape c = some u)
    (cs : List Char) : readString .plain ('\\' :: c :: cs) = prepend [u] (readString .plain cs) := by
  rw [readString, if_neg (by decide), if_pos rfl, readString, if_neg hc, h]

/-- So is a long one. -/
theorem readString_hex4 (u : UInt16) (cs : List Char) :
    readString .plain ('\\' :: 'u' :: (hex4 u ++ cs)) = prepend [u] (readString .plain cs) := by
  have hlt := u.toNat_lt
  rw [readString, if_neg (by decide), if_pos rfl, readString, if_pos rfl]
  simp only [hex4, List.cons_append, List.nil_append, readString,
    hexValue_hexDigit (u.toNat / 4096) (by omega),
    hexValue_hexDigit (u.toNat / 256 % 16) (by omega),
    hexValue_hexDigit (u.toNat / 16 % 16) (by omega),
    hexValue_hexDigit (u.toNat % 16) (by omega)]
  have hsum : 16 * (16 * (16 * (16 * 0 + u.toNat / 4096) + u.toNat / 256 % 16) +
      u.toNat / 16 % 16) + u.toNat % 16 = u.toNat := by omega
  simp only [Nat.reduceSub, Nat.reduceEqDiff, if_false, if_true, hsum, UInt16.ofNat_toNat]

/-- The character of a number is known by the number. -/
theorem ne_of_toNat_ne {c d : Char} (h : c.toNat ≠ d.toNat) : c ≠ d := by
  rintro rfl
  exact h rfl

/-- A unit is its number. -/
theorem unit_ext {u v : UInt16} (h : u.toNat = v.toNat) : u = v := UInt16.toNat_inj.mp h

/-- A unit that is not half of a pair is read back from how it is written. -/
theorem readString_escapeUnit (u : UInt16) (cs : List Char) :
    readString .plain (escapeUnit u ++ cs) = prepend [u] (readString .plain cs) := by
  have hlt := u.toNat_lt
  -- the two that must be escaped, the five short escapes, the hex ones, and the rest
  unfold escapeUnit
  split
  next h =>
    rw [show u = 0x22 from unit_ext h]
    exact readString_simple (by decide) rfl cs
  split
  next h =>
    rw [show u = 0x5C from unit_ext h]
    exact readString_simple (by decide) rfl cs
  split
  next h =>
    rw [show u = 8 from unit_ext h]
    exact readString_simple (by decide) rfl cs
  split
  next h =>
    rw [show u = 9 from unit_ext h]
    exact readString_simple (by decide) rfl cs
  split
  next h =>
    rw [show u = 10 from unit_ext h]
    exact readString_simple (by decide) rfl cs
  split
  next h =>
    rw [show u = 12 from unit_ext h]
    exact readString_simple (by decide) rfl cs
  split
  next h =>
    rw [show u = 13 from unit_ext h]
    exact readString_simple (by decide) rfl cs
  split
  · exact readString_hex4 u cs
  next hquote hslash _ _ _ _ _ hplain =>
    -- an ordinary unit is its own character
    simp only [Bool.or_eq_true, decide_eq_true_eq, not_or, Bool.not_eq_true] at hplain
    have hu := Utf16.isSurrogate_eq_false hplain.2
    have hchar : (Char.ofNat u.toNat).toNat = u.toNat := Utf16.toNat_ofNat_of_lt (by omega)
    have hunit : Utf16.encodeChar (Char.ofNat u.toNat) = [u] := by
      have h := Utf16.encodeChar_decodeUnit hplain.2
      rwa [Utf16.decodeUnit, hplain.2, if_neg Bool.false_ne_true] at h
    rw [List.singleton_append, readString_char, hunit]
    · exact ne_of_toNat_ne (by rw [hchar]; exact hquote)
    · exact ne_of_toNat_ne (by rw [hchar]; exact hslash)
    · omega

/-- And a character outside the BMP, as its two units. -/
theorem readString_pair {hi lo : UInt16} (hhi : Utf16.isHigh hi = true)
    (hlo : Utf16.isLow lo = true) (cs : List Char) :
    readString .plain (Utf16.pair hi lo :: cs) = prepend [hi, lo] (readString .plain cs) := by
  have hbig := Utf16.toNat_pair hhi hlo
  rw [readString_char, Utf16.encodeChar_pair hhi hlo]
  · exact ne_of_toNat_ne (by show _ ≠ 0x22; omega)
  · exact ne_of_toNat_ne (by show _ ≠ 0x5C; omega)
  · omega

/-- A text is read back up to its closing quote. -/
theorem readString_escape (s : JsStr) (cs : List Char) :
    readString .plain (escape s ++ '"' :: cs) = some (s, cs) := by
  fun_induction escape s with
  | case1 =>
    rw [List.nil_append, readString, if_pos rfl]
  | case2 u =>
    rw [readString_escapeUnit, readString, if_pos rfl]
    rfl
  | case3 u v us h ih =>
    obtain ⟨hhi, hlo⟩ := Bool.and_eq_true_iff.mp h
    rw [List.cons_append, readString_pair hhi hlo, ih]
    rfl
  | case4 u v us h ih =>
    rw [List.append_assoc, readString_escapeUnit, ih]
    rfl

/-- A string is read back from its quoted text. -/
theorem readString_quote (s : JsStr) (cs : List Char) :
    (quote s ++ cs).head? = some '"' ∧
      readString .plain (quote s ++ cs).tail = some (s, cs) := by
  refine ⟨rfl, ?_⟩
  show readString .plain (escape s ++ ['"'] ++ cs) = _
  rw [List.append_assoc]
  exact readString_escape s cs

/-! ## Numbers read back -/

/-- What may follow a value inside another, or at the end. -/
def Follows (cs : List Char) : Prop :=
  ∀ c ∈ cs.head?, c = ',' ∨ c = ']' ∨ c = '\x7d'

/-- Nothing follows at the end. -/
theorem follows_nil : Follows [] := fun _ h => by cases h

/-- What separates values ends a number. -/
theorem follows_cons {c : Char} (h : c = ',' ∨ c = ']' ∨ c = '\x7d') (cs : List Char) :
    Follows (c :: cs) := by
  intro d hd
  obtain rfl := Option.some.inj hd
  exact h

/-- Digits end where a value may be followed. -/
theorem spanDigits_append {ds cs : List Char} (hds : ∀ c ∈ ds, c.isDigit = true)
    (hcs : Follows cs) : spanDigits (ds ++ cs) = (ds, cs) := by
  -- what follows a number begins with no digit
  have hstop : cs.takeWhile Char.isDigit = [] ∧ cs.dropWhile Char.isDigit = cs := by
    cases cs with
    | nil => exact ⟨rfl, rfl⟩
    | cons c cs =>
      have hc : c.isDigit = false := by
        cases hcs c rfl with
        | inl h => subst h; rfl
        | inr h =>
          cases h with
          | inl h => subst h; rfl
          | inr h => subst h; rfl
      exact ⟨List.takeWhile_cons_of_neg (by simp [hc]), List.dropWhile_cons_of_neg (by simp [hc])⟩
  rw [spanDigits, List.takeWhile_append_of_pos hds,
    List.dropWhile_append_of_pos hds, hstop.1, hstop.2, List.append_nil]

/-- A natural number is written in digits. -/
theorem natText_isDigit (n : Nat) : ∀ c ∈ natText n, c.isDigit = true :=
  fun _ hc => Nat.isDigit_of_mem_toDigits (by decide) (by decide) hc

/-- Only zero is written with a leading zero. -/
theorem natText_head (n : Nat) (hn : 0 < n) : (natText n).head? ≠ some '0' := by
  induction n using Nat.strongRecOn with
  | ind n ih =>
    rw [natText, Nat.toDigits_eq_if (by decide)]
    split
    next hlt =>
      have hdigit : ∀ d < 10, 0 < d → some (Nat.digitChar d) ≠ some '0' := by decide
      exact hdigit n hlt hn
    next hge =>
      have hhead := ih (n / 10) (by omega) (by omega)
      rw [List.head?_append_of_ne_nil _ Nat.toDigits_ne_nil]
      exact hhead

/-- A natural number is read back. -/
theorem readNat_natText (n : Nat) {cs : List Char} (hcs : Follows cs) :
    readNat (natText n ++ cs) = some (n, cs) := by
  rw [readNat, spanDigits_append (natText_isDigit n) hcs]
  have hvalue : Nat.ofDigitChars 10 (natText n) 0 = n := Nat.ofDigitChars_ten_toDigits
  have hhead := natText_head n
  cases h : natText n with
  | nil => exact absurd h Nat.toDigits_ne_nil
  | cons d ds =>
    rw [h] at hvalue hhead
    -- the only numeral with a leading zero is zero itself
    have hleading : ¬(d = '0' ∧ ds ≠ []) := by
      rintro ⟨rfl, hds⟩
      have hzero : n = 0 := by
        by_contra hne
        exact hhead (by omega) rfl
      subst hzero
      cases h
      exact hds rfl
    simp only [hleading, if_false, hvalue]

/-- An integer has no fraction. -/
theorem readFraction_of_follows {cs : List Char} (hcs : Follows cs) :
    readFraction cs = some ([], cs) := by
  unfold readFraction
  split
  next rest => exact absurd (hcs '.' rfl) (by decide)
  next => rfl

/-- And no exponent. -/
theorem readExponent_of_follows {cs : List Char} (hcs : Follows cs) :
    readExponent cs = some (0, cs) := by
  unfold readExponent
  split
  next c rest =>
    rw [if_neg]
    rintro (rfl | rfl)
    · exact absurd (hcs 'e' rfl) (by decide)
    · exact absurd (hcs 'E' rfl) (by decide)
  next => rfl

/-- So it is read as itself. -/
theorem readUnsigned_natText (n : Nat) {cs : List Char} (hcs : Follows cs) :
    readUnsigned (natText n ++ cs) = some ((n : Rat), cs) := by
  simp only [readUnsigned, readNat_natText n hcs, readFraction_of_follows hcs,
    readExponent_of_follows hcs, Nat.ofDigitChars_nil, List.length_nil, Nat.cast_zero, sub_zero,
    zpow_zero, mul_one]

/-- An integer is read back from its digits. -/
theorem readNumber_intText (n : Int) {cs : List Char} (hcs : Follows cs) :
    readNumber (intText n ++ cs) = some ((n : Rat), cs) := by
  unfold intText
  by_cases hn : n < 0
  · have hvalue : -(n.natAbs : Rat) = n := by
      have : (n.natAbs : Int) = -n := by omega
      rw [← Int.cast_natCast, this, Int.cast_neg, neg_neg]
    rw [if_pos hn, List.cons_append, readNumber, readUnsigned_natText _ hcs, Option.map_some,
      hvalue]
  · have hvalue : (n.natAbs : Rat) = n := by
      have : (n.natAbs : Int) = n := by omega
      rw [← Int.cast_natCast, this]
    rw [if_neg hn, ← hvalue, ← readUnsigned_natText _ hcs]
    unfold readNumber
    -- digits have no sign in front
    split
    next rest hminus =>
      have hdigit := natText_isDigit n.natAbs '-'
      cases h : natText n.natAbs with
      | nil => exact absurd h Nat.toDigits_ne_nil
      | cons d ds =>
        rw [h, List.cons_append, List.cons.injEq] at hminus
        rw [h, hminus.1] at hdigit
        exact absurd (hdigit (by simp)) (by decide)
    next => rfl

/-! ## Values read back -/

mutual

/-- Numbers are integers, and no object has two fields of one name. -/
def Canonical : Value → Prop
  | .num q => q.den = 1
  | .arr items => CanonicalItems items
  | .obj fields => (fields.map Prod.fst).Nodup ∧ CanonicalFields fields
  | _ => True

/-- Every item is canonical. -/
def CanonicalItems : List Value → Prop
  | [] => True
  | v :: vs => Canonical v ∧ CanonicalItems vs

/-- Every field is canonical. -/
def CanonicalFields : List (JsStr × Value) → Prop
  | [] => True
  | (_, v) :: fs => Canonical v ∧ CanonicalFields fs

end

mutual

/-- The fuel the reader needs for a value. -/
def need : Value → Nat
  | .arr items => needItems items + 1
  | .obj fields => needFields fields + 1
  | _ => 1

/-- The fuel the items take. -/
def needItems : List Value → Nat
  | [] => 0
  | v :: vs => need v + needItems vs + 1

/-- The fuel the fields take. -/
def needFields : List (JsStr × Value) → Nat
  | [] => 0
  | (_, v) :: fs => need v + needFields fs + 1

end

/-- A text that starts with a token of a value. -/
def Starts (cs : List Char) : Prop :=
  ∃ c rest, cs = c :: rest ∧ isSpace c = false ∧ c ≠ ']' ∧ c ≠ '\x7d'

/-- The start of a value is not touched by what follows. -/
theorem Starts.append {cs : List Char} (h : Starts cs) (ds : List Char) : Starts (cs ++ ds) := by
  obtain ⟨c, rest, rfl, hc⟩ := h
  exact ⟨c, rest ++ ds, rfl, hc⟩

/-- A value does not start with white space. -/
theorem Starts.skipSpace {cs : List Char} (h : Starts cs) : skipSpace cs = cs := by
  obtain ⟨c, rest, rfl, hc, -⟩ := h
  exact List.dropWhile_cons_of_neg (by simp [hc])

/-- Nothing is skipped before anything else. -/
theorem skipSpace_cons {c : Char} (h : isSpace c = false) (cs : List Char) :
    skipSpace (c :: cs) = c :: cs :=
  List.dropWhile_cons_of_neg (by simp [h])

/-- An integer starts with its sign or a digit. -/
theorem intText_head (n : Int) : ∃ c rest, intText n = c :: rest ∧ (c = '-' ∨ c.isDigit = true) := by
  unfold intText
  split
  · exact ⟨'-', _, rfl, .inl rfl⟩
  · cases h : natText n.natAbs with
    | nil => exact absurd h Nat.toDigits_ne_nil
    | cons d ds => exact ⟨d, ds, rfl, .inr (natText_isDigit n.natAbs d (by simp [h]))⟩

/-- A digit or a sign opens no other kind of value. -/
theorem numberHead_ne {c : Char} (h : c = '-' ∨ c.isDigit = true) :
    isSpace c = false ∧ c ≠ ']' ∧ c ≠ '\x7d' ∧ c ≠ 'n' ∧ c ≠ 't' ∧ c ≠ 'f' ∧ c ≠ '"' ∧ c ≠ '[' ∧
      c ≠ '\x7b' := by
  cases h with
  | inl h => subst h; decide
  | inr h =>
    have hdigit := Char.isDigit_iff_toNat.mp h
    have hne : ∀ d : Char, d.toNat < 48 ∨ 57 < d.toNat → c ≠ d := by
      rintro d hd rfl
      have h0 : '0'.toNat = 48 := rfl
      have h9 : '9'.toNat = 57 := rfl
      omega
    refine ⟨?_, hne _ (by decide), hne _ (by decide), hne _ (by decide), hne _ (by decide),
      hne _ (by decide), hne _ (by decide), hne _ (by decide), hne _ (by decide)⟩
    simp only [isSpace, Bool.or_eq_false_iff, beq_eq_false_iff_ne]
    exact ⟨⟨⟨hne _ (by decide), hne _ (by decide)⟩, hne _ (by decide)⟩, hne _ (by decide)⟩

/-- What is written starts a value. -/
theorem stringify_starts {v : Value} (h : Canonical v) : Starts (stringify v) := by
  cases v with
  | null => exact ⟨'n', _, rfl, by decide⟩
  | bool b => cases b with
    | true => exact ⟨'t', _, rfl, by decide⟩
    | false => exact ⟨'f', _, rfl, by decide⟩
  | num q =>
    -- a digit or a minus sign
    obtain ⟨c, rest, htext, hc⟩ := intText_head q.num
    have hhead := numberHead_ne hc
    refine ⟨c, rest, ?_, hhead.1, hhead.2.1, hhead.2.2.1⟩
    rw [stringify, numText, if_pos (show q.den = 1 from h), htext]
  | str s => exact ⟨'"', _, rfl, by decide⟩
  | arr items => exact ⟨'[', _, by rw [stringify], by decide⟩
  | obj fields => exact ⟨'\x7b', _, by rw [stringify], by decide⟩

/-- A new field is the last one. -/
theorem setField_of_new {fields : List (JsStr × Value)} {name : JsStr}
    (h : name ∉ fields.map Prod.fst) (v : Value) :
    setField fields name v = fields ++ [(name, v)] := by
  rw [setField, if_neg]
  simpa using h

/-- An integer is read back. -/
theorem readValue_num {q : Rat} (h : q.den = 1) {fuel : Nat} (hfuel : 0 < fuel) {cs : List Char}
    (hcs : Follows cs) : readValue fuel (numText q ++ cs) = some (.num q, cs) := by
  obtain ⟨c, rest, htext, hc⟩ := intText_head q.num
  obtain ⟨hspace, -, -, hn, ht, hf, hquote, hbracket, hbrace⟩ := numberHead_ne hc
  have hread := readNumber_intText q.num hcs
  rw [Rat.coe_int_num_of_den_eq_one h] at hread
  obtain ⟨fuel, rfl⟩ : ∃ k, fuel = k + 1 := ⟨fuel - 1, by omega⟩
  rw [htext, List.cons_append] at hread
  rw [numText, if_pos h, htext, List.cons_append, readValue, skipSpace_cons hspace]
  simp only [hn, ht, hf, hquote, hbracket, hbrace, if_false, hread, Option.map_some]

/-- A quote starts a text. -/
theorem readValue_quote (fuel : Nat) (cs : List Char) :
    readValue (fuel + 1) ('"' :: cs) = (readString .plain cs).map (fun p => (.str p.1, p.2)) := rfl

/-- A bracket starts items. -/
theorem readValue_bracket (fuel : Nat) {cs : List Char} (h : Starts cs) :
    readValue (fuel + 1) ('[' :: cs) = (readItems fuel cs).map (fun p => (.arr p.1, p.2)) := by
  have hskip := h.skipSpace
  obtain ⟨c, rest, rfl, -, hc, -⟩ := h
  show (if (skipSpace (c :: rest)).head? = some ']' then _ else _) = _
  rw [hskip, if_neg]
  simpa using hc

/-- A brace starts fields. -/
theorem readValue_brace (fuel : Nat) {cs : List Char} (h : Starts cs) :
    readValue (fuel + 1) ('\x7b' :: cs) =
      (readFields fuel [] cs).map (fun p => (.obj p.1, p.2)) := by
  have hskip := h.skipSpace
  obtain ⟨c, rest, rfl, -, -, hc⟩ := h
  show (if (skipSpace (c :: rest)).head? = some '\x7d' then _ else _) = _
  rw [hskip, if_neg]
  simpa using hc

/-- Behind a comma there is another item. -/
theorem readItems_comma {fuel : Nat} {cs rest : List Char} {v : Value}
    (h : readValue fuel cs = some (v, ',' :: rest)) :
    readItems (fuel + 1) cs = (readItems fuel rest).map (fun p => (v :: p.1, p.2)) := by
  rw [readItems, h]
  rfl

/-- Behind a bracket there is none. -/
theorem readItems_close {fuel : Nat} {cs rest : List Char} {v : Value}
    (h : readValue fuel cs = some (v, ']' :: rest)) :
    readItems (fuel + 1) cs = some ([v], rest) := by
  rw [readItems, h]
  rfl

/-- A field in front of a text, and what follows its value. -/
theorem readFields_name (fuel : Nat) (read : List (JsStr × Value)) (name : JsStr)
    (cs : List Char) :
    readFields (fuel + 1) read (quote name ++ ':' :: cs) =
      match readValue fuel cs with
      | none => none
      | some (v, rest) =>
        match skipSpace rest with
        | ',' :: rest => readFields fuel (setField read name v) rest
        | '\x7d' :: rest => some (setField read name v, rest)
        | _ => none := by
  have hname := (readString_quote name (':' :: cs)).2
  show (match readString .plain (quote name ++ ':' :: cs).tail with
    | none => none
    | some (name, rest) => _) = _
  rw [hname]
  rfl

/-- A name of a list without repetition is not among those before it. -/
theorem not_mem_of_nodup {read fields : List (JsStr × Value)} {name : JsStr} {v : Value}
    (h : ((read ++ (name, v) :: fields).map Prod.fst).Nodup) : name ∉ read.map Prod.fst := by
  rw [List.map_append, List.map_cons, List.nodup_append] at h
  intro hmem
  exact h.2.2 name hmem name (by simp) rfl

/-- The items start with the first one. -/
theorem stringifyItems_starts {items : List Value} (hne : items ≠ [])
    (h : CanonicalItems items) : Starts (stringifyItems items) := by
  cases items with
  | nil => exact absurd rfl hne
  | cons v vs =>
    have hv := stringify_starts h.1
    cases vs with
    | nil => rwa [stringifyItems]
    | cons w ws =>
      rw [stringifyItems]
      exact hv.append _

/-- The fields start with the first name. -/
theorem stringifyFields_starts {fields : List (JsStr × Value)} (hne : fields ≠ []) :
    Starts (stringifyFields fields) := by
  have hquote : ∀ name : JsStr, Starts (quote name) := fun name => ⟨'"', _, rfl, by decide⟩
  match fields with
  | [] => exact absurd rfl hne
  | [(name, v)] =>
    rw [stringifyFields]
    exact (hquote name).append _
  | (name, v) :: f :: fs =>
    rw [stringifyFields]
    exact (hquote name).append _

mutual

/-- A value is read back from its text, whatever follows. -/
theorem readValue_stringify : ∀ (v : Value), Canonical v → ∀ (fuel : Nat), need v ≤ fuel →
    ∀ (cs : List Char), Follows cs → readValue fuel (stringify v ++ cs) = some (v, cs)
  | .null, _, fuel + 1, _, cs, _ => rfl
  | .bool true, _, fuel + 1, _, cs, _ => rfl
  | .bool false, _, fuel + 1, _, cs, _ => rfl
  | .num q, h, fuel, hfuel, cs, hcs => by
    rw [stringify]
    exact readValue_num h hfuel hcs
  | .str s, _, fuel + 1, _, cs, _ => by
    rw [stringify]
    show readValue (fuel + 1) ('"' :: (quote s ++ cs).tail) = _
    rw [readValue_quote, (readString_quote s cs).2]
    rfl
  | .arr [], _, fuel + 1, _, cs, _ => rfl
  -- a filled array: the bracket, then its items with one unit of fuel less
  | .arr (v :: vs), h, fuel + 1, hfuel, cs, _ => by
    have hitems : CanonicalItems (v :: vs) := h
    have hne : v :: vs ≠ [] := List.cons_ne_nil v vs
    have hread := readItems_stringify (v :: vs) hne hitems fuel (Nat.le_of_succ_le_succ hfuel) cs
    rw [stringify, List.cons_append, List.append_assoc,
      readValue_bracket fuel ((stringifyItems_starts hne hitems).append _)]
    simp only [List.singleton_append, hread, Option.map_some]
  | .obj [], _, fuel + 1, _, cs, _ => rfl
  -- a filled object likewise, none of its names seen before
  | .obj (f :: fs), h, fuel + 1, hfuel, cs, _ => by
    have hfields : CanonicalFields (f :: fs) := h.2
    have hne : f :: fs ≠ [] := List.cons_ne_nil f fs
    have hread := readFields_stringify (f :: fs) hne hfields fuel (Nat.le_of_succ_le_succ hfuel)
      [] h.1 cs
    rw [stringify, List.cons_append, List.append_assoc,
      readValue_brace fuel ((stringifyFields_starts hne).append _)]
    simp only [List.singleton_append, hread, Option.map_some, List.nil_append]
  -- without fuel there is nothing left to read
  | .null, _, 0, hfuel, _, _ => by simp [need] at hfuel
  | .bool _, _, 0, hfuel, _, _ => by simp [need] at hfuel
  | .str _, _, 0, hfuel, _, _ => by simp [need] at hfuel
  | .arr _, _, 0, hfuel, _, _ => by simp [need] at hfuel
  | .obj _, _, 0, hfuel, _, _ => by simp [need] at hfuel

/-- Items are read back, given the fuel they take. -/
theorem readItems_stringify : ∀ (items : List Value), items ≠ [] → CanonicalItems items →
    ∀ (fuel : Nat), needItems items ≤ fuel → ∀ (cs : List Char),
    readItems fuel (stringifyItems items ++ ']' :: cs) = some (items, cs)
  | [], hne, _, _, _, _ => absurd rfl hne
  | v :: vs, _, _, 0, hfuel, _ => by simp [needItems] at hfuel
  | [v], _, h, fuel + 1, hfuel, cs => by
    have hfuel' : need v ≤ fuel := by
      simp only [needItems] at hfuel
      omega
    have hv := readValue_stringify v h.1 fuel hfuel' (']' :: cs) (follows_cons (by decide) cs)
    rw [stringifyItems]
    exact readItems_close hv
  -- a value, a comma, and the rest with one unit of fuel less
  | v :: w :: vs, _, h, fuel + 1, hfuel, cs => by
    have hfuel' : need v ≤ fuel ∧ needItems (w :: vs) ≤ fuel := by
      simp only [needItems] at hfuel ⊢
      omega
    have hv := readValue_stringify v h.1 fuel hfuel'.1
      (',' :: (stringifyItems (w :: vs) ++ ']' :: cs)) (follows_cons (by decide) _)
    have hrest := readItems_stringify (w :: vs) (List.cons_ne_nil w vs) h.2 fuel hfuel'.2 cs
    rw [stringifyItems, List.append_assoc, List.cons_append, readItems_comma hv, hrest]
    rfl

/-- So are fields, behind those read before. -/
theorem readFields_stringify : ∀ (fields : List (JsStr × Value)), fields ≠ [] →
    CanonicalFields fields → ∀ (fuel : Nat), needFields fields ≤ fuel →
    ∀ (read : List (JsStr × Value)), ((read ++ fields).map Prod.fst).Nodup → ∀ (cs : List Char),
    readFields fuel read (stringifyFields fields ++ '\x7d' :: cs) = some (read ++ fields, cs)
  | [], hne, _, _, _, _, _, _ => absurd rfl hne
  | f :: fs, _, _, 0, hfuel, _, _, _ => by simp [needFields] at hfuel
  | [(name, v)], _, h, fuel + 1, hfuel, read, hnames, cs => by
    have hfuel' : need v ≤ fuel := by
      simp only [needFields] at hfuel
      omega
    have hv := readValue_stringify v h.1 fuel hfuel' ('\x7d' :: cs) (follows_cons (by decide) cs)
    rw [stringifyFields, List.append_assoc, List.cons_append, readFields_name, hv,
      ← setField_of_new (not_mem_of_nodup hnames) v]
    rfl
  | (name, v) :: f :: fs, _, h, fuel + 1, hfuel, read, hnames, cs => by
    have hfuel' : need v ≤ fuel ∧ needFields (f :: fs) ≤ fuel := by
      simp only [needFields] at hfuel ⊢
      omega
    have hv := readValue_stringify v h.1 fuel hfuel'.1
      (',' :: (stringifyFields (f :: fs) ++ '\x7d' :: cs)) (follows_cons (by decide) _)
    -- the field just read joins those before it, and its name is new among them
    have hassoc : read ++ (name, v) :: f :: fs = (read ++ [(name, v)]) ++ f :: fs := by simp
    have hrest := readFields_stringify (f :: fs) (List.cons_ne_nil f fs) h.2 fuel hfuel'.2
      (read ++ [(name, v)]) (hassoc ▸ hnames) cs
    rw [stringifyFields, List.append_assoc, List.cons_append, List.append_assoc, List.cons_append,
      readFields_name, hv, hassoc, ← hrest, ← setField_of_new (not_mem_of_nodup hnames) v]
    rfl

end

/-! ## Whole texts -/

/-- A quoted text has its two quotes. -/
theorem length_quote (s : JsStr) : 2 ≤ (quote s).length := by
  simp [quote]

/-- A number has a digit. -/
theorem length_numText (q : Rat) : 1 ≤ (numText q).length := by
  have hpos : ∀ n, 1 ≤ (natText n).length := fun n => Nat.length_toDigits_pos
  unfold numText intText
  split
  · split
    · simp
    · exact hpos _
  · simp only [List.length_append, List.length_cons]
    omega

mutual

/-- The fuel of the whole reader is enough. -/
theorem need_le_length : ∀ v : Value, need v ≤ 2 * (stringify v).length
  | .null => by decide
  | .bool true => by decide
  | .bool false => by decide
  -- leaves: one unit, and never an empty text
  | .num q => by
    have := length_numText q
    rw [stringify, need]
    · omega
    all_goals simp
  | .str s => by
    have := length_quote s
    rw [stringify, need]
    · omega
    all_goals simp
  -- what the items need fits between the brackets
  | .arr items => by
    have := needItems_le_length items
    rw [stringify, need, List.length_cons, List.length_append, List.length_singleton]
    omega
  | .obj fields => by
    have := needFields_le_length fields
    rw [stringify, need, List.length_cons, List.length_append, List.length_singleton]
    omega

/-- The text of the items is fuel enough. -/
theorem needItems_le_length : ∀ items : List Value,
    needItems items ≤ 2 * (stringifyItems items).length + 1
  | [] => by decide
  | [v] => by
    have := need_le_length v
    rw [stringifyItems, needItems, needItems]
    omega
  | v :: w :: vs => by
    have hv := need_le_length v
    -- the comma pays for the step to the next item
    have hrest := needItems_le_length (w :: vs)
    rw [stringifyItems, needItems, List.length_append, List.length_cons]
    omega

/-- So is that of the fields. -/
theorem needFields_le_length : ∀ fields : List (JsStr × Value),
    needFields fields ≤ 2 * (stringifyFields fields).length + 1
  | [] => by decide
  | [(name, v)] => by
    have := need_le_length v
    rw [stringifyFields, needFields, needFields, List.length_append, List.length_cons]
    omega
  | (name, v) :: f :: fs => by
    have hv := need_le_length v
    have hrest := needFields_le_length (f :: fs)
    rw [stringifyFields, needFields, List.length_append, List.length_cons, List.length_append,
      List.length_cons]
    omega

end

/-- The text of a value is parsed to the value. -/
theorem parse_stringify {v : Value} (h : Canonical v) : parse (stringify v) = some v := by
  have hfuel := need_le_length v
  have hread := readValue_stringify v h (2 * (stringify v).length + 2) (by omega) [] follows_nil
  rw [List.append_nil] at hread
  rw [parse, hread]
  rfl

/-! ## Objects with written names -/

/-- An object, its field names as text. -/
def object (fields : List (String × Value)) : Value :=
  .obj (fields.map fun f => (Utf16.encode f.1, f.2))

/-- A string value, as text. -/
def text (s : String) : Value := .str (Utf16.encode s)

/-- Fields are canonical one by one. -/
theorem canonicalFields_of_forall {fields : List (JsStr × Value)}
    (h : ∀ f ∈ fields, Canonical f.2) : CanonicalFields fields := by
  induction fields with
  | nil => trivial
  | cons f fs ih =>
    exact ⟨h f List.mem_cons_self, ih (fun g hg => h g (List.mem_cons_of_mem f hg))⟩

/-- So are items. -/
theorem canonicalItems_of_forall {items : List Value} (h : ∀ v ∈ items, Canonical v) :
    CanonicalItems items := by
  induction items with
  | nil => trivial
  | cons v vs ih =>
    exact ⟨h v List.mem_cons_self, ih (fun w hw => h w (List.mem_cons_of_mem v hw))⟩

/-- An object of distinct names and canonical values is canonical. -/
theorem canonical_object {fields : List (String × Value)} (hnames : (fields.map Prod.fst).Nodup)
    (h : ∀ f ∈ fields, Canonical f.2) : Canonical (object fields) := by
  constructor
  -- different names are encoded differently
  · have hmap : (fields.map fun f => (Utf16.encode f.1, f.2)).map Prod.fst =
        (fields.map Prod.fst).map Utf16.encode := by simp
    rw [hmap]
    exact List.Nodup.map Utf16.encode_injective hnames
  · apply canonicalFields_of_forall
    intro f hf
    obtain ⟨g, hg, rfl⟩ := List.mem_map.mp hf
    exact h g hg

/-- The text of an object starts and ends with its braces. -/
theorem stringify_object (fields : List (String × Value)) :
    ∃ body, stringify (object fields) = '\x7b' :: (body ++ ['\x7d']) :=
  ⟨_, rfl⟩

/-- The field of an object, by its name. -/
def Value.field (name : String) : Value → Option Value
  | .obj fields => fields.lookup (Utf16.encode name)
  | _ => none

/-- The text of a value that is one. -/
def Value.asString : Value → Option JsStr
  | .str s => some s
  | _ => none

/-- The fields of an object are found by their names. -/
theorem field_object (fields : List (String × Value)) (name : String) :
    (object fields).field name = fields.lookup name := by
  show List.lookup (Utf16.encode name) _ = _
  induction fields with
  | nil => rfl
  | cons f fs ih =>
    -- names are equal as units iff they are as texts
    have hname : (Utf16.encode name == Utf16.encode f.1) = (name == f.1) := by
      rw [Bool.eq_iff_iff, beq_iff_eq, beq_iff_eq, Utf16.encode_injective.eq_iff]
    rw [List.map_cons, List.lookup_cons, List.lookup_cons, hname, ih]

/-! ## No control characters

A text that `stringify` writes is one line, whatever strings the value holds. -/

/-- No control character. -/
def Printable (cs : List Char) : Prop := ∀ c ∈ cs, 0x20 ≤ c.toNat

/-- There is no control character in nothing. -/
theorem printable_nil : Printable [] := fun _ h => by cases h

/-- Nor in a printable character and a printable text. -/
theorem printable_cons {c : Char} {cs : List Char} (hc : 0x20 ≤ c.toNat) (h : Printable cs) :
    Printable (c :: cs) := by
  intro d hd
  cases hd with
  | head => exact hc
  | tail _ hd => exact h d hd

/-- Nor in two printable texts. -/
theorem Printable.append {cs ds : List Char} (h : Printable cs) (h' : Printable ds) :
    Printable (cs ++ ds) := by
  intro c hc
  cases List.mem_append.mp hc with
  | inl hc => exact h c hc
  | inr hc => exact h' c hc

/-- A text is printable character by character. -/
theorem printable_of_all {cs : List Char} (h : cs.all (fun c => 0x20 ≤ c.toNat) = true) :
    Printable cs := by
  intro c hc
  exact of_decide_eq_true (List.all_eq_true.mp h c hc)

/-- Hex digits are printable. -/
theorem printable_hex4 (u : UInt16) : Printable (hex4 u) := by
  have hdigit : ∀ n < 16, 0x20 ≤ (hexDigit n).toNat := by decide
  have hlt := u.toNat_lt
  exact printable_cons (hdigit _ (by omega)) (printable_cons (hdigit _ (by omega))
    (printable_cons (hdigit _ (by omega)) (printable_cons (hdigit _ (by omega)) printable_nil)))

/-- An escaped unit is printable: control characters are written in hex. -/
theorem printable_escapeUnit (u : UInt16) : Printable (escapeUnit u) := by
  have htwo : ∀ c : Char, 0x20 ≤ c.toNat → Printable ['\\', c] := fun c hc =>
    printable_cons (by decide) (printable_cons hc printable_nil)
  unfold escapeUnit
  repeat' split
  case isTrue => exact htwo '"' (by decide)
  case isTrue => exact htwo '\\' (by decide)
  case isTrue => exact htwo 'b' (by decide)
  case isTrue => exact htwo 't' (by decide)
  case isTrue => exact htwo 'n' (by decide)
  case isTrue => exact htwo 'f' (by decide)
  case isTrue => exact htwo 'r' (by decide)
  case isTrue =>
    exact printable_cons (by decide) (printable_cons (by decide) (printable_hex4 u))
  -- an unescaped unit is no control character and no surrogate
  case isFalse hplain =>
    simp only [Bool.or_eq_true, decide_eq_true_eq, not_or, Bool.not_eq_true] at hplain
    have hu := Utf16.isSurrogate_eq_false hplain.2
    have hlt := u.toNat_lt
    have hchar : (Char.ofNat u.toNat).toNat = u.toNat := Utf16.toNat_ofNat_of_lt (by omega)
    exact printable_cons (by omega) printable_nil

/-- So is an escaped text. -/
theorem printable_escape (s : JsStr) : Printable (escape s) := by
  fun_induction escape s with
  | case1 => exact printable_nil
  | case2 u => exact printable_escapeUnit u
  | case3 u v us h ih =>
    obtain ⟨hhi, hlo⟩ := Bool.and_eq_true_iff.mp h
    have := Utf16.toNat_pair hhi hlo
    exact printable_cons (by omega) ih
  | case4 u v us h ih => exact (printable_escapeUnit u).append ih

/-- And a quoted one. -/
theorem printable_quote (s : JsStr) : Printable (quote s) :=
  printable_cons (by decide) ((printable_escape s).append (printable_cons (by decide) printable_nil))

/-- Digits are printable. -/
theorem printable_digits {cs : List Char} (h : ∀ c ∈ cs, c.isDigit = true) : Printable cs := by
  intro c hc
  have hdigit := Char.isDigit_iff_toNat.mp (h c hc)
  have h0 : '0'.toNat = 48 := rfl
  omega

/-- Numbers are printable. -/
theorem printable_numText (q : Rat) : Printable (numText q) := by
  have hnat : ∀ n, Printable (natText n) := fun n => printable_digits (natText_isDigit n)
  have hminus : Printable ['-'] := printable_cons (by decide) printable_nil
  -- digits, padded with zeros in front
  have hfraction : Printable (fractionText q) := by
    refine Printable.append (fun c hc => ?_) (hnat _)
    rw [(List.mem_replicate.mp hc).2]
    decide
  unfold numText intText
  split
  · split
    · exact hminus.append (hnat _)
    · exact hnat _
  · refine Printable.append (Printable.append ?_ (hnat _)) (printable_cons (by decide) hfraction)
    split
    · exact hminus
    · exact printable_nil

mutual

/-- The text of a value holds no control character. -/
theorem printable_stringify : ∀ v : Value, Printable (stringify v)
  | .null => printable_of_all rfl
  | .bool true => printable_of_all rfl
  | .bool false => printable_of_all rfl
  | .num q => by
    rw [stringify]
    exact printable_numText q
  | .str s => by
    rw [stringify]
    exact printable_quote s
  | .arr items => by
    rw [stringify]
    exact printable_cons (by decide)
      ((printable_stringifyItems items).append (printable_cons (by decide) printable_nil))
  | .obj fields => by
    rw [stringify]
    exact printable_cons (by decide)
      ((printable_stringifyFields fields).append (printable_cons (by decide) printable_nil))

/-- What items are written as is printable. -/
theorem printable_stringifyItems : ∀ items : List Value, Printable (stringifyItems items)
  | [] => printable_nil
  | [v] => by
    rw [stringifyItems]
    exact printable_stringify v
  | v :: w :: vs => by
    rw [stringifyItems]
    exact (printable_stringify v).append
      (printable_cons (by decide) (printable_stringifyItems (w :: vs)))

/-- So is what fields are written as. -/
theorem printable_stringifyFields : ∀ fields : List (JsStr × Value),
    Printable (stringifyFields fields)
  | [] => printable_nil
  | [(name, v)] => by
    rw [stringifyFields]
    exact (printable_quote name).append (printable_cons (by decide) (printable_stringify v))
  | (name, v) :: f :: fs => by
    rw [stringifyFields]
    exact (printable_quote name).append (printable_cons (by decide)
      ((printable_stringify v).append (printable_cons (by decide)
        (printable_stringifyFields (f :: fs)))))

end

end JsonText
