import ControlPlane.ForStd.Utf16
import Mathlib.Data.List.Basic
import Mathlib.Data.List.DropRight
import Mathlib.Data.List.Infix
import Mathlib.Data.String.Basic

/-!
# JavaScript string operations

The string methods a TypeScript program calls, on Lean strings: `trim`, `split`
on one character, `startsWith`, `length` (which counts UTF-16 code units), and
`toLowerCase` as far as its result is compared with ASCII text.
-/

namespace JsString

/-- The code points `String.prototype.trim` strips: WhiteSpace and LineTerminator. -/
def isTrimmed (c : Char) : Bool :=
  let n := c.toNat
  (9 ≤ n && n ≤ 13) || n == 0x20 || n == 0xA0 || n == 0x1680 ||
    (0x2000 ≤ n && n ≤ 0x200A) || n == 0x2028 || n == 0x2029 || n == 0x202F ||
    n == 0x205F || n == 0x3000 || n == 0xFEFF

/-- `s.trim()`. -/
def trim (s : String) : String :=
  String.ofList ((s.toList.dropWhile isTrimmed).reverse.dropWhile isTrimmed).reverse

/-- `s.length`: characters outside the basic plane are two code units. -/
def length (s : String) : Nat :=
  s.toList.length + s.toList.countP (fun c => 0x10000 ≤ c.toNat)

/-- No character is less than one code unit. -/
theorem toList_length_le (s : String) : s.toList.length ≤ length s := by
  unfold length
  omega

@[simp] theorem length_append (s t : String) : length (s ++ t) = length s + length t := by
  unfold length
  rw [String.toList_append, List.length_append, List.countP_append]
  omega

/-- Characters of the basic plane are one code unit each. -/
theorem length_ofList {cs : List Char} (h : ∀ c ∈ cs, c.toNat < 0x10000) :
    length (String.ofList cs) = cs.length := by
  have hnone : cs.countP (fun c => 0x10000 ≤ c.toNat) = 0 := by
    rw [List.countP_eq_zero]
    intro c hc
    have := h c hc
    simp only [decide_eq_true_eq]
    omega
  rw [length, String.toList_ofList, hnone, Nat.add_zero]

theorem length_trim_le (s : String) : length (trim s) ≤ length s := by
  -- trimming drops characters at either end, pairs among them or not
  have hsub : (trim s).toList.Sublist s.toList := by
    unfold trim
    rw [String.toList_ofList]
    have hend : (((s.toList.dropWhile isTrimmed).reverse.dropWhile isTrimmed).reverse).Sublist
        (s.toList.dropWhile isTrimmed).reverse.reverse :=
      (List.dropWhile_sublist _).reverse
    rw [List.reverse_reverse] at hend
    exact hend.trans (List.dropWhile_sublist _)
  have hlength := hsub.length_le
  have hcount : (trim s).toList.countP (fun c => 0x10000 ≤ c.toNat) ≤
      s.toList.countP (fun c => 0x10000 ≤ c.toNat) := hsub.countP_le
  unfold length
  omega

/-- What is left after trimming has nothing to trim. -/
theorem trim_trim (s : String) : trim (trim s) = trim s := by
  have hstart : ∀ hl : 0 < (s.toList.dropWhile isTrimmed).length,
      ¬isTrimmed ((s.toList.dropWhile isTrimmed).get ⟨0, hl⟩) = true :=
    List.dropWhile_get_zero_not isTrimmed s.toList
  have hdrop : ((s.toList.dropWhile isTrimmed).rdropWhile isTrimmed).dropWhile isTrimmed =
      (s.toList.dropWhile isTrimmed).rdropWhile isTrimmed := by
    generalize s.toList.dropWhile isTrimmed = cs at hstart
    cases hkept : cs.rdropWhile isTrimmed with
    | nil => rfl
    | cons c rest =>
      -- the first character of what is kept is the first one
      obtain ⟨tail, htail⟩ := List.rdropWhile_prefix isTrimmed (l := cs)
      rw [hkept] at htail
      subst htail
      exact List.dropWhile_cons_of_neg (hstart (Nat.zero_lt_succ _))
  show String.ofList (((trim s).toList.dropWhile isTrimmed).rdropWhile isTrimmed) = _
  have htrim : (trim s).toList = (s.toList.dropWhile isTrimmed).rdropWhile isTrimmed :=
    String.toList_ofList
  rw [htrim, hdrop, List.rdropWhile_idempotent]
  rfl

/-- The pieces of a character list between the separators. -/
def splitChars (sep : Char) : List Char → List (List Char)
  | [] => [[]]
  | c :: cs =>
    match splitChars sep cs with
    | [] => [[]]
    | piece :: pieces => if c = sep then [] :: piece :: pieces else (c :: piece) :: pieces

/-- `s.split(sep)` for a separator of one character. -/
def split (s : String) (sep : Char) : List String :=
  (splitChars sep s.toList).map String.ofList

/-- `toLowerCase` of one character. The Kelvin sign is the only character outside
    ASCII whose lower case is an ASCII letter. -/
def lowerChar (c : Char) : Char :=
  if c.toNat = 0x212A then 'k' else c.toLower

/-- `s.toLowerCase()`, exact wherever the result is ASCII. -/
def toLowerCase (s : String) : String :=
  String.ofList (s.toList.map lowerChar)

/-- `s.endsWith(suffix)`. -/
def endsWith (s suffix : String) : Bool := suffix.toList.isSuffixOf s.toList

/-- `s.includes(word)`. -/
def includes (s word : String) : Bool := s.toList.tails.any fun rest => word.toList.isPrefixOf rest

/-- `s.slice(0, n)`. Half a pair that is left at the cut becomes the replacement character. -/
def slice (s : String) (n : Nat) : String := String.ofList (Utf16.decode ((Utf16.encode s).take n))

/-- `s.replace(/\s+/g, "")`. -/
def removeSpaces (s : String) : String := String.ofList (s.toList.filter fun c => !isTrimmed c)

/-- A character as `encodeURIComponent` writes it. -/
def encodeURIChar (c : Char) : List Char :=
  if c.isAlphanum || "-_.!~*'()".toList.contains c then [c]
  else (String.utf8EncodeChar c).flatMap fun byte =>
    ['%', (Nat.digitChar (byte.toNat / 16)).toUpper, (Nat.digitChar (byte.toNat % 16)).toUpper]

/-- `encodeURIComponent(s)`. -/
def encodeURIComponent (s : String) : String := String.ofList (s.toList.flatMap encodeURIChar)

/-- A split is known by the characters of its pieces. -/
theorem split_eq {s : String} {sep : Char} {pieces : List String}
    (h : splitChars sep s.toList = pieces.map String.toList) : split s sep = pieces := by
  rw [split, h, List.map_map]
  simp

theorem trim_eq {s : String}
    (h : ((s.toList.dropWhile isTrimmed).reverse.dropWhile isTrimmed).reverse = s.toList) :
    trim s = s := by
  rw [trim, h, String.ofList_toList]

/-! ### Lines -/

theorem splitChars_of_not_mem {sep : Char} {cs : List Char} (h : sep ∉ cs) :
    splitChars sep cs = [cs] := by
  induction cs with
  | nil => rfl
  | cons c cs ih =>
    have hc : c ≠ sep := fun e => h (e ▸ List.mem_cons_self)
    rw [splitChars, ih (fun m => h (List.mem_cons_of_mem c m))]
    show (if c = sep then _ else _) = _
    rw [if_neg hc]

/-- A piece ends at the first separator. -/
theorem splitChars_append {sep : Char} {cs : List Char} (h : sep ∉ cs) (rest : List Char) :
    splitChars sep (cs ++ sep :: rest) = cs :: splitChars sep rest := by
  induction cs with
  | nil =>
    show splitChars sep (sep :: rest) = _
    rw [splitChars]
    cases splitChars sep rest with
    | nil => rfl
    | cons piece pieces => exact if_pos rfl
  | cons c cs ih =>
    -- the separator comes after all of these
    have hc : c ≠ sep := fun e => h (e ▸ List.mem_cons_self)
    rw [List.cons_append, splitChars, ih (fun m => h (List.mem_cons_of_mem c m))]
    show (if c = sep then _ else _) = _
    rw [if_neg hc]

theorem splitChars_ne_nil (sep : Char) (cs : List Char) : splitChars sep cs ≠ [] := by
  cases cs with
  | nil => exact List.cons_ne_nil _ _
  | cons c cs =>
    rw [splitChars]
    split
    · exact List.cons_ne_nil _ _
    · split <;> exact List.cons_ne_nil _ _

theorem splitChars_sep (sep : Char) (cs : List Char) :
    splitChars sep (sep :: cs) = [] :: splitChars sep cs :=
  splitChars_append (show sep ∉ [] from List.not_mem_nil) cs

/-- A character that does not separate goes to the first piece. -/
theorem splitChars_cons {sep c : Char} (hc : c ≠ sep) {cs piece : List Char}
    {pieces : List (List Char)} (h : splitChars sep cs = piece :: pieces) :
    splitChars sep (c :: cs) = (c :: piece) :: pieces := by
  rw [splitChars, h]
  exact if_neg hc

/-- What is appended goes to the last piece. -/
theorem splitChars_append_right (sep : Char) (cs more : List Char) :
    splitChars sep (cs ++ more) = (splitChars sep cs).dropLast ++
      splitChars sep ((splitChars sep cs).getLast (splitChars_ne_nil sep cs) ++ more) := by
  induction cs with
  | nil => rfl
  | cons c cs ih =>
    -- a separator starts a piece; any other character goes on with the first one
    by_cases hc : c = sep
    · subst hc
      simp only [List.cons_append, splitChars_sep, ih]
      rw [List.dropLast_cons_of_ne_nil (splitChars_ne_nil c cs),
        List.getLast_cons (splitChars_ne_nil c cs), List.cons_append]
    · cases hpieces : splitChars sep cs with
      | nil => exact absurd hpieces (splitChars_ne_nil sep cs)
      | cons piece pieces =>
        simp only [hpieces] at ih
        simp only [splitChars_cons hc hpieces, List.cons_append]
        cases pieces with
        | nil =>
          -- `cs` has no separator: both sides split what follows it
          cases hrest : splitChars sep (piece ++ more) with
          | nil => exact absurd hrest (splitChars_ne_nil sep _)
          | cons first rest =>
            have hih : splitChars sep (cs ++ more) = first :: rest := by
              rw [ih, ← hrest]
              rfl
            rw [splitChars_cons hc hih]
            exact (splitChars_cons hc hrest).symm
        | cons second pieces => exact splitChars_cons hc ih

/-- No piece has the separator in it. -/
theorem not_mem_of_mem_splitChars {sep : Char} {cs piece : List Char}
    (h : piece ∈ splitChars sep cs) : sep ∉ piece := by
  induction cs generalizing piece with
  | nil =>
    cases List.mem_singleton.mp h
    exact List.not_mem_nil
  | cons c cs ih =>
    -- a separator begins a new piece, anything else goes to the front of the first
    by_cases hc : c = sep
    · subst hc
      rw [splitChars_sep] at h
      rcases List.mem_cons.mp h with rfl | h
      · exact List.not_mem_nil
      · exact ih h
    · cases hpieces : splitChars sep cs with
      | nil => exact absurd hpieces (splitChars_ne_nil sep cs)
      | cons first pieces =>
        rw [splitChars_cons hc hpieces] at h
        rw [hpieces] at ih
        rcases List.mem_cons.mp h with rfl | h
        · intro hmem
          rcases List.mem_cons.mp hmem with rfl | hmem
          · exact hc rfl
          · exact ih List.mem_cons_self hmem
        · exact ih (List.mem_cons_of_mem _ h)

/-- Lines that each end with the separator are split back, and nothing is left over. -/
theorem split_lines {sep : Char} {lines : List String} (h : ∀ line ∈ lines, sep ∉ line.toList) :
    split (String.ofList (lines.flatMap fun line => line.toList ++ [sep])) sep = lines ++ [""] := by
  apply split_eq
  rw [String.toList_ofList]
  induction lines with
  | nil => rfl
  | cons line lines ih =>
    rw [List.flatMap_cons, List.append_assoc, List.singleton_append,
      splitChars_append (h line List.mem_cons_self), ih (fun l m => h l (List.mem_cons_of_mem _ m))]
    rfl

/-- A text that starts and ends with characters `trim` keeps is its own trim. -/
theorem trim_of_ends {c d : Char} {cs ds : List Char} {s : String} (hstart : s.toList = c :: cs)
    (hend : s.toList = ds ++ [d]) (hc : isTrimmed c = false) (hd : isTrimmed d = false) :
    trim s = s := by
  apply trim_eq
  have hfront : s.toList.dropWhile isTrimmed = s.toList := by
    rw [hstart, List.dropWhile_cons_of_neg (by simp [hc])]
  rw [hfront, hend, List.reverse_append]
  show ((d :: ds.reverse).dropWhile isTrimmed).reverse = _
  rw [List.dropWhile_cons_of_neg (by simp [hd]), List.reverse_cons, List.reverse_reverse]

/-- A text without white space is its own trim. -/
theorem trim_of_forall {s : String} (h : ∀ c ∈ s.toList, isTrimmed c = false) : trim s = s := by
  have hkeep {cs : List Char} (hcs : ∀ c ∈ cs, isTrimmed c = false) :
      cs.dropWhile isTrimmed = cs := by
    cases cs with
    | nil => rfl
    | cons c cs => exact List.dropWhile_cons_of_neg (by simp [hcs c])
  apply trim_eq
  rw [hkeep h, hkeep (fun c hc => h c (List.mem_reverse.mp hc)), List.reverse_reverse]

/-- A space in front is trimmed. -/
theorem trim_space (s : String) : trim (String.ofList (' ' :: s.toList)) = trim s := by
  rw [trim, trim, String.toList_ofList, List.dropWhile_cons_of_pos (by decide)]

/-- `s.startsWith(pre)`. -/
def startsWith (s pre : String) : Bool :=
  pre.toList.isPrefixOf s.toList

theorem startsWith_append (pre s : String) : startsWith (pre ++ s) pre = true := by
  simp [startsWith]

/-- `s.replace(/^pre/, new)`. -/
def replacePrefix (s pre new : String) : String :=
  if startsWith s pre then new ++ String.ofList (s.toList.drop pre.toList.length) else s

example : trim "  aig:log \n" = "aig:log" := by decide

example : split "a.b." '.' = ["a", "b", ""] := by decide

/-- The length counts code units. -/
theorem length_eq (s : String) : length s = (Utf16.encode s).length := by
  unfold length Utf16.encode
  induction s.toList with
  | nil => rfl
  | cons c cs ih =>
    rw [List.flatMap_cons, List.length_append, ← ih, List.countP_cons, List.length_cons]
    -- a character beyond the basic plane is two units
    by_cases hsmall : c.toNat < 0x10000
    · rw [Utf16.encodeChar, if_pos hsmall, if_neg (by simpa using hsmall), List.length_singleton]
      omega
    · rw [Utf16.encodeChar, if_neg hsmall, if_pos (by simpa using hsmall)]
      simp only [List.length_cons, List.length_nil]
      omega

@[simp] theorem length_slice (s : String) (n : Nat) : length (slice s n) = min n (length s) := by
  rw [length_eq, length_eq s, slice, Utf16.encode, String.toList_ofList,
    Utf16.length_flatMap_decode, List.length_take]

/-- Without surrogate pairs a cut is between characters. -/
theorem toList_slice {s : String} (h : ∀ c ∈ s.toList, c.toNat < 0x10000) (n : Nat) :
    (slice s n).toList = s.toList.take n := by
  -- within the basic plane units and characters are the same
  have hunits {cs : List Char} (hcs : ∀ c ∈ cs, c.toNat < 0x10000) :
      cs.flatMap Utf16.encodeChar = cs.map fun c => UInt16.ofNat c.toNat := by
    rw [List.map_eq_flatMap]
    apply List.flatMap_congr
    intro c hc
    rw [Utf16.encodeChar, if_pos (hcs c hc)]
  have htake : (Utf16.encode s).take n = Utf16.encode (String.ofList (s.toList.take n)) := by
    rw [Utf16.encode, Utf16.encode, String.toList_ofList, hunits h,
      hunits fun c hc => h c (List.mem_of_mem_take hc), List.map_take]
  rw [slice, String.toList_ofList, htake, Utf16.decode_encode, String.toList_ofList]

/-! ### Pieces of a text -/

theorem includes_iff {s word : String} : includes s word = true ↔ word.toList <:+: s.toList := by
  unfold includes
  rw [List.any_eq_true, List.infix_iff_prefix_suffix]
  simp only [List.mem_tails, List.isPrefixOf_iff_prefix]
  constructor
  · rintro ⟨rest, hsuffix, hprefix⟩
    exact ⟨rest, hprefix, hsuffix⟩
  · rintro ⟨rest, hprefix, hsuffix⟩
    exact ⟨rest, hsuffix, hprefix⟩

/-- A character that is twice in a row is so behind a piece that does not have it. -/
theorem doubled_of_append {c : Char} {xs ys : List Char} (hx : c ∉ xs)
    (h : [c, c] <:+: xs ++ ys) : [c, c] <:+: ys := by
  induction xs with
  | nil => exact h
  | cons x xs ih =>
    rcases List.infix_cons_iff.mp h with hprefix | hinfix
    · have hhead : c = x := (List.cons_prefix_cons.mp hprefix).1
      exact absurd List.mem_cons_self (hhead ▸ hx)
    · exact ih (fun hmem => hx (List.mem_cons_of_mem x hmem)) hinfix

/-- Behind another character as well. -/
theorem doubled_of_tail {c d : Char} {ys : List Char} (hd : d ≠ c)
    (h : [c, c] <:+: d :: ys) : [c, c] <:+: ys :=
  doubled_of_append (fun hmem => hd (List.mem_singleton.mp hmem).symm) (h : [c, c] <:+: [d] ++ ys)

/-- One with another character behind it is not the start of two. -/
theorem doubled_of_cons {c d : Char} {ys : List Char} (hd : d ≠ c)
    (h : [c, c] <:+: c :: d :: ys) : [c, c] <:+: d :: ys := by
  rcases List.infix_cons_iff.mp h with hprefix | hinfix
  · have htail := (List.cons_prefix_cons.mp hprefix).2
    exact absurd (List.cons_prefix_cons.mp htail).1.symm hd
  · exact hinfix

end JsString
