import ControlPlane.Model.Routes.SttStream
import ControlPlane.Spec.MediaTokens

/-!
# Keys and tickets read back

The secret of a key may hold the character that separates the pieces of a key, so the pieces
are cut at the first two separators. What the plane mints is read back, and what is read is
nothing but a key in the format it mints.

## Key results

- `parseClientKey_format` / `format_of_parseClientKey`: reading is the inverse of writing
- `parse_clientKey`: what the plane mints is well formed
- `bearerFromRequest_bearer`: and survives the header
-/

namespace ControlPlane

/-! ## Cutting at the first separator -/

/-- A text is cut at its first separator. -/
theorem splitFirst_append {c : Char} {xs : List Char} (h : c ∉ xs) (ys : List Char) :
    splitFirst c (xs ++ c :: ys) = some (xs, ys) := by
  induction xs with
  | nil => simp [splitFirst]
  | cons x xs ih =>
    simp only [List.mem_cons, not_or] at h
    rw [List.cons_append, splitFirst, if_neg (Ne.symm h.1), ih h.2]
    rfl

/-- A text that was cut is the two sides and the separator. -/
theorem eq_of_splitFirst {c : Char} {cs xs ys : List Char} (h : splitFirst c cs = some (xs, ys)) :
    cs = xs ++ c :: ys := by
  induction cs generalizing xs with
  | nil => cases h
  | cons d ds ih =>
    rw [splitFirst] at h
    split at h
    next hd =>
      obtain ⟨rfl, rfl⟩ := Prod.mk.inj (Option.some.inj h)
      rw [hd, List.nil_append]
    next =>
      -- the separator lies further on: the induction hypothesis is about the rest of the text
      cases hrest : splitFirst c ds with
      | none => rw [hrest] at h; cases h
      | some p =>
        obtain ⟨xs', ys'⟩ := p
        rw [hrest] at h
        obtain ⟨rfl, rfl⟩ := Prod.mk.inj (Option.some.inj h)
        rw [ih hrest, List.cons_append]

/-! ## Client keys -/

/-- A key id has no separator in it. -/
theorem not_mem_of_isKeyId {cs : List Char} (h : isKeyId cs = true) : '_' ∉ cs := by
  intro hmem
  have hall := List.all_eq_true.mp (Bool.and_eq_true_iff.mp h).2 _ hmem
  exact absurd hall (by decide)

/-- A key is written as the prefix, the id and the secret. -/
theorem toList_formatClientKey (keyId secret : String) :
    (formatClientKey keyId secret).toList =
      KEY_PREFIX.toList ++ '_' :: (keyId.toList ++ '_' :: secret.toList) := by
  simp [formatClientKey]

/-- A key is read back as its pieces. -/
theorem parseClientKey_format {keyId secret : String} (hkey : isKeyId keyId.toList = true)
    (hsecret : isSecret secret.toList = true) :
    parseClientKey (formatClientKey keyId secret) = some ⟨keyId, secret⟩ := by
  rw [parseClientKey, toList_formatClientKey, splitFirst_append (by decide)]
  dsimp only
  rw [if_neg (by simp), splitFirst_append (not_mem_of_isKeyId hkey)]
  dsimp only
  rw [hkey, hsecret, String.ofList_toList, String.ofList_toList]
  rfl

/-- What is read is a key of the format. -/
theorem format_of_parseClientKey {raw : String} {key : ParsedKey}
    (h : parseClientKey raw = some key) : raw = formatClientKey key.keyId key.secret ∧
      isKeyId key.keyId.toList = true ∧ isSecret key.secret.toList = true := by
  unfold parseClientKey at h
  split at h
  next => cases h
  next first rest hfirst =>
    split at h
    next => cases h
    next hprefix =>
      split at h
      next => cases h
      next keyId secret hrest =>
        split at h
        next => cases h
        -- prefix, id and secret are there, and both have their shape
        next hshape =>
          obtain rfl := Option.some.inj h
          simp only [Bool.or_eq_true, Bool.not_eq_true', not_or, Bool.not_eq_false] at hshape
          rw [String.toList_ofList, String.toList_ofList]
          refine ⟨String.toList_inj.mp ?_, hshape⟩
          rw [toList_formatClientKey, String.toList_ofList, String.toList_ofList,
            eq_of_splitFirst hfirst, eq_of_splitFirst hrest, not_not.mp hprefix]

/-! ## What the plane mints -/

/-- The sixteen digits are hex digits. -/
theorem isHexDigit_digitChar : ∀ n < 16, Media.isHexDigit (Nat.digitChar n) = true := by decide

/-- Bytes are written as two hex digits each. -/
theorem hexText_spec (bytes : List UInt8) : (hexText bytes).toList.length = 2 * bytes.length ∧
    (hexText bytes).toList.all Media.isHexDigit = true := by
  rw [hexText, String.toList_ofList]
  induction bytes with
  | nil => exact ⟨rfl, rfl⟩
  | cons b bytes ih =>
    have hb := b.toNat_lt
    rw [List.flatMap_cons, List.length_append, ih.1, List.all_append, ih.2]
    constructor
    · simp only [List.length_cons, List.length_nil]
      omega
    · have hhigh : b.toNat / 16 < 16 := by omega
      have hlow : b.toNat % 16 < 16 := by omega
      simp only [List.all_cons, List.all_nil, isHexDigit_digitChar _ hhigh,
        isHexDigit_digitChar _ hlow, Bool.and_self]

/-- A minted key id is a key id. -/
theorem isKeyId_newKeyId (random : Vector UInt8 8) : isKeyId (newKeyId random).toList = true := by
  have hspec := hexText_spec random.toList
  rw [isKeyId, newKeyId, hspec.1, hspec.2, Vector.length_toList]
  rfl

/-- Three bytes are four digits, and the last group is cut. -/
theorem length_b64url (bytes : List UInt8) :
    (Media.b64url bytes).toList.length = (4 * bytes.length + 2) / 3 := by
  -- padded Base64 is the digits and k equals signs, so counting those gives the length without them
  obtain ⟨ds, k, hencode, hds, -, -⟩ := Base64.encode_padding bytes
  have hdigit : '=' ∉ ds := fun hmem => absurd (hds _ hmem) (by decide)
  have hlen := congrArg List.length hencode
  have hcount := congrArg (List.count '=') hencode
  rw [Base64.length_encode, List.length_append, List.length_replicate] at hlen
  rw [Base64.count_encode, List.count_append, List.count_eq_zero.mpr hdigit,
    List.count_replicate_self] at hcount
  rw [Media.toList_b64url hencode hds, List.length_map]
  omega

/-- Base64url characters are identifier characters. -/
theorem isIdChar_urlChar {c : Char} (h : (Base64.value c).isSome = true) :
    Media.isIdChar (Media.urlChar c) = true := by
  have hall : ∀ n < 128, (Base64.value (Char.ofNat n)).isSome = true →
      Media.isIdChar (Media.urlChar (Char.ofNat n)) = true := by decide
  have hc := hall c.toNat (Base64.toNat_of_value h).2
  rw [Char.ofNat_toNat] at hc
  exact hc h

/-- So a base64url text is made of them. -/
theorem isIdChar_b64url (bytes : List UInt8) :
    (Media.b64url bytes).toList.all Media.isIdChar = true := by
  obtain ⟨ds, k, hencode, hds, -, -⟩ := Base64.encode_padding bytes
  rw [Media.toList_b64url hencode hds, List.all_map, List.all_eq_true]
  intro c hc
  exact isIdChar_urlChar (hds c hc)

/-- A minted secret is a secret. -/
theorem isSecret_randomSecret (random : Vector UInt8 32) :
    isSecret (randomSecret random).toList = true := by
  rw [isSecret, randomSecret, length_b64url, Vector.length_toList, isIdChar_b64url]
  rfl

/-- A minted key is read back as the key id and secret that were minted. -/
theorem parse_clientKey (random : KeyBytes) : parseClientKey random.clientKey =
    some ⟨newKeyId random.keyId, randomSecret random.secret⟩ :=
  parseClientKey_format (isKeyId_newKeyId random.keyId) (isSecret_randomSecret random.secret)

/-! ## In the header -/

/-- An identifier character is neither trimmed nor ends a line. -/
theorem isIdChar_plain {c : Char} (h : Media.isIdChar c = true) :
    JsString.isTrimmed c = false ∧ isLineTerminator c = false := by
  have hall : ∀ n < 128, Media.isIdChar (Char.ofNat n) = true →
      JsString.isTrimmed (Char.ofNat n) = false ∧ isLineTerminator (Char.ofNat n) = false := by
    decide
  have hc := hall c.toNat (Media.isKeyChar_lt (Media.isIdChar_spec h).1)
  rw [Char.ofNat_toNat] at hc
  exact hc h

/-- A bearer of plain characters survives the header it is sent in. -/
theorem bearerFromRequest_bearer {t : String} (h : t.toList.all Media.isIdChar = true)
    (hne : t ≠ "") : bearerFromRequest (some ("Bearer " ++ t)) = some t := by
  have hplain : ∀ c ∈ t.toList, JsString.isTrimmed c = false ∧ isLineTerminator c = false :=
    fun c hc => isIdChar_plain (List.all_eq_true.mp h c hc)
  have hlist : t.toList ≠ [] := fun hnil => hne (String.toList_eq_nil_iff.mp hnil)
  -- the value of the header is not trimmed, for it starts and ends with plain characters
  have htrim : JsString.trim ("Bearer " ++ t) = "Bearer " ++ t := by
    have hstart : ("Bearer " ++ t).toList = 'B' :: ("earer ".toList ++ t.toList) := by
      rw [String.toList_append]
      rfl
    have hend : ("Bearer " ++ t).toList =
        ("Bearer ".toList ++ t.toList.dropLast) ++ [t.toList.getLast hlist] := by
      rw [String.toList_append, List.append_assoc, List.dropLast_concat_getLast hlist]
    exact JsString.trim_of_ends hstart hend (by decide) (hplain _ (List.getLast_mem hlist)).1
  have hdrop : (' ' :: t.toList).dropWhile JsString.isTrimmed = t.toList := by
    rw [List.dropWhile_cons_of_pos (by decide)]
    cases htext : t.toList with
    | nil => rfl
    | cons c cs => rw [List.dropWhile_cons_of_neg (by rw [(hplain c (by simp [htext])).1]; simp)]
  have hchars : (JsString.trim ("Bearer " ++ t)).toList = "Bearer".toList ++ ' ' :: t.toList := by
    rw [htrim, String.toList_append]
    rfl
  unfold bearerFromRequest
  dsimp only
  rw [hchars, List.take_left' (by decide), List.drop_left' (by decide), hdrop, if_neg (by decide),
    if_neg, String.ofList_toList, JsString.trim_of_forall fun c hc => (hplain c hc).1]
  rintro (hlen | hnil | hline)
  · simp at hlen
  · exact hlist hnil
  · obtain ⟨c, hc, hterm⟩ := List.any_eq_true.mp hline
    rw [(hplain c hc).2] at hterm
    cases hterm

/-- A minted key is made of identifier characters. -/
theorem isIdChar_clientKey (random : KeyBytes) :
    random.clientKey.toList.all Media.isIdChar = true := by
  have hhex : (newKeyId random.keyId).toList.all Media.isIdChar = true :=
    List.all_eq_true.mpr fun c hc =>
      Media.isIdChar_of_hex (List.all_eq_true.mp (hexText_spec random.keyId.toList).2 c hc)
  rw [KeyBytes.clientKey, toList_formatClientKey, List.all_append, List.all_cons, List.all_append,
    List.all_cons, hhex, randomSecret, isIdChar_b64url]
  decide

/-- The key the plane mints, presented as bearer, is read as what was minted. -/
theorem presented_clientKey (random : KeyBytes) :
    (bearerFromRequest (some ("Bearer " ++ random.clientKey))).bind parseClientKey =
      some ⟨newKeyId random.keyId, randomSecret random.secret⟩ := by
  have hne : random.clientKey ≠ "" := by
    intro h
    have hparse := parse_clientKey random
    rw [h, show parseClientKey "" = none from rfl] at hparse
    -- an empty key does not parse, and this one does
    cases hparse
  rw [bearerFromRequest_bearer (isIdChar_clientKey random) hne]
  exact parse_clientKey random

end ControlPlane
