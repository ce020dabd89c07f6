import ControlPlane.ForStd.JsString
import Mathlib.Data.List.TakeWhile

/-!
# Base64 data URLs

The regular expressions a program reads `data:…;base64,…` with. They differ in what
they let stand for the media type, in the `i` flag and in the `s` flag; where a type
may not hold a semicolon, it is what stands before the first one.

## Key results

- `exec_write`: what is read of a written data URL
- `eq_write_of_exec`: what is read, without the `i` flag, was written so
-/

namespace DataUrl

/-- What `.` matches without the `s` flag: no line terminator. -/
def isDot (c : Char) : Bool :=
  !(c.toNat == 10 || c.toNat == 13 || c.toNat == 0x2028 || c.toNat == 0x2029)

/-- One regular expression `^data:(media);base64,(.+)$`. -/
structure Pattern where
  /-- The `i` flag. -/
  anyCase : Bool
  /-- The `s` flag. -/
  dotAll : Bool
  /-- What the first group accepts. -/
  media : List Char → Bool

/-- What follows a word that a text starts with. -/
def dropWord (anyCase : Bool) : List Char → List Char → Option (List Char)
  | [], cs => some cs
  | _ :: _, [] => none
  | w :: ws, c :: cs =>
    if w = c ∨ (anyCase = true ∧ w.toLower = c.toLower) then dropWord anyCase ws cs else none

/-- The two groups of a match. -/
def Pattern.exec (pattern : Pattern) (s : String) : Option (String × String) :=
  match dropWord pattern.anyCase "data:".toList s.toList with
  | none => none
  | some rest =>
    let media := rest.takeWhile (· != ';')
    match dropWord pattern.anyCase ";base64,".toList (rest.dropWhile (· != ';')) with
    | none => none
    | some data =>
      if pattern.media media && !data.isEmpty && (pattern.dotAll || data.all isDot) then
        some (String.ofList media, String.ofList data)
      else none

/-- `[a-zA-Z0-9.+-]+` -/
def isSubtype (cs : List Char) : Bool :=
  !cs.isEmpty && cs.all fun c => c.isAlphanum || c == '.' || c == '+' || c == '-'

/-- A type of one family, its subtype as a class of characters. -/
def family (anyCase : Bool) (name : String) (subtype : List Char → Bool) (cs : List Char) : Bool :=
  match dropWord anyCase name.toList cs with
  | some rest => subtype rest
  | none => false

/-- `[^;]+`, before the first semicolon. -/
def isAnything (cs : List Char) : Bool := !cs.isEmpty

/-- `[^;,]+` -/
def isPlain (cs : List Char) : Bool := !cs.isEmpty && cs.all (· != ',')

/-! ## Writing and reading -/

/-- The data URL of a media type and its data. -/
def write (media data : String) : String := "data:" ++ media ++ ";base64," ++ data

theorem toList_write (media data : String) : (write media data).toList =
    "data:".toList ++ (media.toList ++ (";base64,".toList ++ data.toList)) := by
  simp only [write, String.toList_append, List.append_assoc]

theorem dropWord_append (anyCase : Bool) (word rest : List Char) :
    dropWord anyCase word (word ++ rest) = some rest := by
  induction word with
  | nil => rfl
  | cons w ws ih => rw [List.cons_append, dropWord, if_pos (Or.inl rfl), ih]

theorem eq_of_dropWord {word cs rest : List Char} (h : dropWord false word cs = some rest) :
    cs = word ++ rest := by
  induction word generalizing cs with
  | nil => exact Option.some.inj h
  | cons w ws ih =>
    cases cs with
    | nil => cases h
    | cons c cs =>
      unfold dropWord at h
      split at h
      next hsame =>
        have hsame : w = c := by simpa using hsame
        rw [ih h, hsame, List.cons_append]
      next => cases h

/-- What is read of a written data URL: its parts, where the pattern takes them. -/
theorem exec_write (pattern : Pattern) {media : String} (hmedia : ';' ∉ media.toList)
    (data : String) :
    pattern.exec (write media data) =
      if pattern.media media.toList && !data.toList.isEmpty &&
          (pattern.dotAll || data.toList.all isDot) then some (media, data) else none := by
  have hall : ∀ c ∈ media.toList, (c != ';') = true := by
    intro c hc
    rw [bne_iff_ne]
    rintro rfl
    exact hmedia hc
  have hstop : (";base64,".toList ++ data.toList) = ';' :: ("base64,".toList ++ data.toList) := rfl
  -- the media type is read up to the first semicolon
  have htake : (media.toList ++ (";base64,".toList ++ data.toList)).takeWhile (· != ';') =
      media.toList := by
    rw [List.takeWhile_append_of_pos hall, hstop, List.takeWhile_cons_of_neg (by decide),
      List.append_nil]
  have hdrop : (media.toList ++ (";base64,".toList ++ data.toList)).dropWhile (· != ';') =
      ";base64,".toList ++ data.toList := by
    rw [List.dropWhile_append_of_pos hall, hstop, List.dropWhile_cons_of_neg (by decide)]
  unfold Pattern.exec
  rw [toList_write, dropWord_append]
  dsimp only
  rw [htake, hdrop, dropWord_append, String.ofList_toList]
  dsimp only
  rw [String.ofList_toList]

/-- What is read with the cases as they are was written so. -/
theorem eq_write_of_exec (pattern : Pattern) {s media data : String}
    (hcase : pattern.anyCase = false) (h : pattern.exec s = some (media, data)) :
    s = write media data ∧ ';' ∉ media.toList := by
  unfold Pattern.exec at h
  rw [hcase] at h
  split at h
  · cases h
  next rest hrest =>
    dsimp only at h
    split at h
    · cases h
    next found hfound =>
      split at h
      next =>
        obtain ⟨rfl, rfl⟩ := Prod.mk.inj (Option.some.inj h)
        constructor
        · -- the pieces the pattern cut off, put together again
          apply String.toList_inj.mp
          calc s.toList = "data:".toList ++ rest := eq_of_dropWord hrest
            _ = "data:".toList ++ (rest.takeWhile (· != ';') ++ (";base64,".toList ++ found)) := by
                rw [← eq_of_dropWord hfound, List.takeWhile_append_dropWhile]
            _ = (write _ _).toList := by simp only [toList_write, String.toList_ofList]
        · rw [String.toList_ofList]
          -- the media type stopped before the first semicolon
          intro hmem
          have := List.mem_takeWhile_imp hmem
          revert this
          decide
      next => cases h

end DataUrl
