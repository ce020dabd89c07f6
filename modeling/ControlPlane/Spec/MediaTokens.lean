import ControlPlane.Model.Media

/-!
# Media keys and tokens

A new object key is safe, a minted token verifies up to its expiry and names what it was
minted for, and a token that verifies names something that was signed.

## Key results

- `isSafeObjectKey_new`: new keys are safe
- `verify_minted`: a minted token read back
- `payload_injective`: the signed text determines kind, expiry and key
- `mem_signed_of_verify`: what verifies was signed
-/

namespace ControlPlane.Media

/-! ## Object keys -/

/-- The characters of a key are ASCII. -/
theorem isKeyChar_lt {c : Char} (h : isKeyChar c = true) : c.toNat < 0x80 := by
  simp only [isKeyChar, Bool.or_eq_true, beq_iff_eq] at h
  -- a character up to the last lower case letter
  have hletter {last : UInt32} (hle : c.val ≤ last) (hlast : last.toNat < 0x80) : c.toNat < 0x80 :=
    lt_of_le_of_lt (UInt32.le_iff_toNat_le.mp hle) hlast
  rcases h with (((h | rfl) | rfl) | rfl) | rfl
  · rcases Bool.or_eq_true_iff.mp h with halpha | hdigit
    · rcases Bool.or_eq_true_iff.mp halpha with hupper | hlower
      · exact hletter (of_decide_eq_true hupper).2 (by decide)
      · exact hletter (of_decide_eq_true (Bool.and_eq_true_iff.mp hlower).2) (by decide)
    · exact hletter (of_decide_eq_true (Bool.and_eq_true_iff.mp hdigit).2) (by decide)
  all_goals decide

/-- What an id keeps may stand in a key, and is no separator of it. -/
theorem isIdChar_spec {c : Char} (h : isIdChar c = true) :
    isKeyChar c = true ∧ c ≠ '.' ∧ c ≠ '/' := by
  refine ⟨?_, ?_, ?_⟩
  · simp only [isIdChar, isKeyChar, Bool.or_eq_true] at h ⊢
    tauto
  · rintro rfl
    exact absurd h (by decide)
  · rintro rfl
    exact absurd h (by decide)

/-- A hex digit is an identifier character. -/
theorem isIdChar_of_hex {c : Char} (h : isHexDigit c = true) : isIdChar c = true := by
  simp only [isHexDigit, Bool.or_eq_true, Bool.and_eq_true, decide_eq_true_eq] at h
  have halpha : c.isAlphanum = true := by
    rcases h with hdigit | ⟨hlow, hhigh⟩
    · exact Bool.or_eq_true_iff.mpr (.inr hdigit)
    · -- the letters of a hexadecimal number are lower case
      have hz : c.val ≤ 'z'.val := le_trans hhigh (by decide : ('f' : Char).val ≤ 'z'.val)
      have hlower : c.isLower = true :=
        Bool.and_eq_true_iff.mpr ⟨decide_eq_true hlow, decide_eq_true hz⟩
      exact Bool.or_eq_true_iff.mpr (.inl (Bool.or_eq_true_iff.mpr (.inr hlower)))
  simp [isIdChar, halpha]

/-- A part of a key: characters of an id, few of them. -/
structure IsPart (limit : Nat) (part : String) : Prop where
  chars : ∀ c ∈ part.toList, isIdChar c = true
  length : part.toList.length ≤ limit

/-- The first characters of an identifier are a part of a key. -/
theorem IsPart.slice {s : String} (h : ∀ c ∈ s.toList, isIdChar c = true) (n : Nat) :
    IsPart n (JsString.slice s n) := by
  have htake := JsString.toList_slice (s := s)
    (fun c hc => (isKeyChar_lt (isIdChar_spec (h c hc)).1).trans (by decide)) n
  constructor
  · rw [htake]
    exact fun c hc => h c (List.mem_of_mem_take hc)
  · rw [htake, List.length_take]
    exact Nat.min_le_left _ _

/-- The part made of an id, or its fallback, is a part and never empty. -/
theorem isPart_keyPart (id fallback : String) (hfallback : IsPart 32 fallback)
    (hne : fallback ≠ "") : IsPart 32 (keyPart id fallback) ∧ keyPart id fallback ≠ "" := by
  unfold keyPart
  dsimp only
  split
  next => exact ⟨hfallback, hne⟩
  next hkept =>
    refine ⟨IsPart.slice ?_ 32, hkept⟩
    rw [String.toList_ofList]
    exact fun c hc => (List.mem_filter.mp hc).2

/-- The random part is a part. -/
theorem isPart_rand (uuid : Uuid) (accountId requestId : String) :
    IsPart 16 (mediaKeyParts uuid accountId requestId).rand := by
  obtain ⟨a, b, c, d, e, htext, -, hhex⟩ := uuid.format
  apply IsPart.slice
  rw [String.toList_ofList]
  intro x hx
  obtain ⟨hmem, hne⟩ := List.mem_filter.mp hx
  have hne' : x ≠ '-' := by simpa using hne
  apply isIdChar_of_hex
  apply List.all_eq_true.mp hhex
  rw [htext] at hmem
  simp only [List.mem_append, List.mem_cons, hne', false_or] at hmem ⊢
  tauto

/-- A key of safe characters in one of the folders, with no doubled dot or slash. -/
theorem isSafeObjectKey_of {key : String} (hchars : ∀ c ∈ key.toList, isKeyChar c = true)
    (hlow : 8 ≤ key.toList.length) (hhigh : key.toList.length ≤ 200)
    (hdots : ¬ ['.', '.'] <:+: key.toList) (hslashes : ¬ ['/', '/'] <:+: key.toList)
    (hfolder : JsString.startsWith key "video/" = true ∨ JsString.startsWith key "music/" = true ∨
      JsString.startsWith key "image/" = true) :
    isSafeObjectKey key = true := by
  -- the characters are ASCII, so code units are characters
  have hlength : JsString.length key = key.toList.length := by
    have hsmall : ∀ c ∈ key.toList, c.toNat < 0x10000 :=
      fun c hc => (isKeyChar_lt (hchars c hc)).trans (by decide)
    have hlist := JsString.length_ofList hsmall
    rwa [String.ofList_toList] at hlist
  have hrest (folder : String) (h : folder.toList.length = 6) : restIsSafe folder key = true := by
    unfold restIsSafe
    dsimp only
    rw [h, Bool.and_eq_true]
    constructor
    · rw [decide_eq_true_eq, ne_eq, List.drop_eq_nil_iff]
      omega
    · exact List.all_eq_true.mpr fun c hc => hchars c (List.mem_of_mem_drop hc)
  have hnot (word : String) (h : ¬ word.toList <:+: key.toList) :
      JsString.includes key word = false :=
    Bool.eq_false_iff.mpr fun hinc => h (JsString.includes_iff.mp hinc)
  -- a backslash is none of the characters of a key
  have hback : ¬ "\\".toList <:+: key.toList := by
    intro h
    have hmem : '\\' ∈ key.toList := h.subset (by decide)
    exact absurd (hchars _ hmem) (by decide)
  unfold isSafeObjectKey
  rw [if_neg (by omega), hnot ".." hdots, hnot "//" hslashes, hnot "\\" hback, if_neg (by decide)]
  -- the folders are tried in the order of the source
  rcases hfolder with h | h | h
  · rw [if_pos h]
    exact hrest _ rfl
  · split_ifs
    · exact hrest _ rfl
    · exact hrest _ rfl
  · split_ifs
    · exact hrest _ rfl
    · exact hrest _ rfl
    · exact hrest _ rfl

/-- What a key is put together from. -/
structure KeyShape (folder acct req rand extension : List Char) : Prop where
  folder : (∀ c ∈ folder, isIdChar c = true) ∧ folder.length = 5
  acct : (∀ c ∈ acct, isIdChar c = true) ∧ acct.length ≤ 32 ∧ acct ≠ []
  req : (∀ c ∈ req, isIdChar c = true) ∧ req.length ≤ 32 ∧ req ≠ []
  rand : (∀ c ∈ rand, isIdChar c = true) ∧ rand.length ≤ 16
  extension : (∀ c ∈ extension, isIdChar c = true) ∧ extension.length = 3

namespace KeyShape

/-- The characters of the key. -/
def chars (folder acct req rand extension : List Char) : List Char :=
  folder ++ '/' :: (acct ++ '/' :: (req ++ '-' :: (rand ++ '.' :: extension)))

variable {folder acct req rand extension : List Char}

/-- Every character of a key is one the keys allow. -/
theorem isKeyChar (h : KeyShape folder acct req rand extension) :
    ∀ c ∈ chars folder acct req rand extension, isKeyChar c = true := by
  intro c hc
  simp only [chars, List.mem_append, List.mem_cons] at hc
  rcases hc with hc | rfl | hc | rfl | hc | rfl | hc | rfl | hc
  · exact (isIdChar_spec (h.folder.1 c hc)).1
  · rfl
  · exact (isIdChar_spec (h.acct.1 c hc)).1
  · rfl
  · exact (isIdChar_spec (h.req.1 c hc)).1
  · rfl
  · exact (isIdChar_spec (h.rand.1 c hc)).1
  · rfl
  · exact (isIdChar_spec (h.extension.1 c hc)).1

/-- A key has between 8 and 200 characters. -/
theorem length (h : KeyShape folder acct req rand extension) :
    8 ≤ (chars folder acct req rand extension).length ∧
      (chars folder acct req rand extension).length ≤ 200 := by
  have hfolder := h.folder.2
  have hacct := h.acct.2.1
  have hreq := h.req.2.1
  have hrand := h.rand.2
  have hextension := h.extension.2
  simp only [chars, List.length_append, List.length_cons]
  omega

/-- The only dot is in front of the extension. -/
theorem not_dots (h : KeyShape folder acct req rand extension) :
    ¬ ['.', '.'] <:+: chars folder acct req rand extension := by
  have hnot {cs : List Char} (hcs : ∀ c ∈ cs, isIdChar c = true) : '.' ∉ cs :=
    fun hc => (isIdChar_spec (hcs _ hc)).2.1 rfl
  intro hdots
  have hslash := JsString.doubled_of_append (hnot h.folder.1) hdots
  have hacct := JsString.doubled_of_tail (by decide) hslash
  have hslash' := JsString.doubled_of_append (hnot h.acct.1) hacct
  have hreq := JsString.doubled_of_tail (by decide) hslash'
  have hhyphen := JsString.doubled_of_append (hnot h.req.1) hreq
  have hrand := JsString.doubled_of_tail (by decide) hhyphen
  have hlast := JsString.doubled_of_append (hnot h.rand.1) hrand
  -- a doubled dot would have one in the extension
  have hmem : '.' ∈ extension := by
    obtain ⟨before, after, heq⟩ := hlast
    cases before with
    | nil => exact (List.cons.inj heq).2 ▸ List.mem_cons_self
    | cons c before => exact (List.cons.inj heq).2 ▸ by simp
  exact hnot h.extension.1 hmem

/-- Both slashes are followed by an id. -/
theorem not_slashes (h : KeyShape folder acct req rand extension) :
    ¬ ['/', '/'] <:+: chars folder acct req rand extension := by
  have hnot {cs : List Char} (hcs : ∀ c ∈ cs, isIdChar c = true) : '/' ∉ cs :=
    fun hc => (isIdChar_spec (hcs _ hc)).2.2 rfl
  obtain ⟨a, acct', rfl⟩ := List.exists_cons_of_ne_nil h.acct.2.2
  obtain ⟨r, req', rfl⟩ := List.exists_cons_of_ne_nil h.req.2.2
  have ha := (isIdChar_spec (h.acct.1 a List.mem_cons_self)).2.2
  have hr := (isIdChar_spec (h.req.1 r List.mem_cons_self)).2.2
  intro hslashes
  have hfirst := JsString.doubled_of_append (hnot h.folder.1) hslashes
  have hacct := JsString.doubled_of_cons ha hfirst
  have hsecond := JsString.doubled_of_append (hnot h.acct.1) hacct
  have hreq := JsString.doubled_of_cons hr hsecond
  -- no slash is left
  have hmem : '/' ∈ (r :: req') ++ '-' :: (rand ++ '.' :: extension) := hreq.subset (by simp)
  simp only [List.mem_append, List.mem_cons] at hmem
  rcases hmem with hc | hc | hc | hc | hc
  · exact hnot h.req.1 (List.mem_cons.mpr hc)
  · exact absurd hc (by decide)
  · exact hnot h.rand.1 hc
  · exact absurd hc (by decide)
  · exact hnot h.extension.1 hc

end KeyShape

/-- The folders and the extensions of new keys. -/
def IsKind (folder extension : String) : Prop :=
  (folder, extension) ∈ [("video", ".mp4"), ("music", ".mp3"), ("image", ".png")]

/-- Of either only their lengths matter, and that their characters are those of ids. -/
theorem IsKind.parts {folder extension : String} (h : IsKind folder extension) : ∃ e,
    (∀ c ∈ folder.toList, isIdChar c = true) ∧ folder.toList.length = 5 ∧
      extension.toList = '.' :: e ∧ (∀ c ∈ e, isIdChar c = true) ∧ e.length = 3 ∧
      (folder = "video" ∨ folder = "music" ∨ folder = "image") := by
  simp only [IsKind, List.mem_cons, List.not_mem_nil, or_false, Prod.mk.injEq] at h
  rcases h with ⟨rfl, rfl⟩ | ⟨rfl, rfl⟩ | ⟨rfl, rfl⟩
  · exact ⟨['m', 'p', '4'], List.all_eq_true.mp (by decide), by decide, by decide,
      List.all_eq_true.mp (by decide), by decide, by simp⟩
  · exact ⟨['m', 'p', '3'], List.all_eq_true.mp (by decide), by decide, by decide,
      List.all_eq_true.mp (by decide), by decide, by simp⟩
  · exact ⟨['p', 'n', 'g'], List.all_eq_true.mp (by decide), by decide, by decide,
      List.all_eq_true.mp (by decide), by decide, by simp⟩

/-- A new key stands in its folder. -/
theorem startsWith_newObjectKey (folder extension : String) (uuid : Uuid)
    (accountId requestId : String) :
    JsString.startsWith (newObjectKey folder extension uuid accountId requestId) (folder ++ "/") =
      true := by
  simp only [newObjectKey, String.append_assoc]
  rw [← String.append_assoc]
  exact JsString.startsWith_append _ _

/-- New keys are safe. -/
theorem isSafeObjectKey_new {folder extension : String} (hkind : IsKind folder extension)
    (uuid : Uuid) (accountId requestId : String) :
    isSafeObjectKey (newObjectKey folder extension uuid accountId requestId) = true := by
  have hrand := isPart_rand uuid accountId requestId
  obtain ⟨hacct, hacctne⟩ := isPart_keyPart accountId "acct"
    ⟨List.all_eq_true.mp (by decide), by decide⟩ (by decide)
  obtain ⟨hreq, hreqne⟩ := isPart_keyPart requestId "req"
    ⟨List.all_eq_true.mp (by decide), by decide⟩ (by decide)
  -- the folder and the extension of a video, a song or an image
  obtain ⟨e, hfolder, hlen, hext, hextchars, hextlen, hstart⟩ := hkind.parts
  -- each part is short, not empty and of identifier characters
  have hshape : KeyShape folder.toList (keyPart accountId "acct").toList
      (keyPart requestId "req").toList (mediaKeyParts uuid accountId requestId).rand.toList e :=
    ⟨⟨hfolder, hlen⟩, ⟨hacct.chars, hacct.length, by simpa using hacctne⟩,
      ⟨hreq.chars, hreq.length, by simpa using hreqne⟩, ⟨hrand.chars, hrand.length⟩,
      ⟨hextchars, hextlen⟩⟩
  have hlist : (newObjectKey folder extension uuid accountId requestId).toList =
      KeyShape.chars folder.toList (keyPart accountId "acct").toList
        (keyPart requestId "req").toList (mediaKeyParts uuid accountId requestId).rand.toList
        e := by
    simp [newObjectKey, KeyShape.chars, hext, mediaKeyParts]
  apply isSafeObjectKey_of
  · rw [hlist]
    exact hshape.isKeyChar
  · rw [hlist]
    exact hshape.length.1
  · rw [hlist]
    exact hshape.length.2
  · rw [hlist]
    exact hshape.not_dots
  · rw [hlist]
    exact hshape.not_slashes
  · have hprefix := startsWith_newObjectKey folder extension uuid accountId requestId
    rcases hstart with rfl | rfl | rfl
    · exact .inl hprefix
    · exact .inr (.inl hprefix)
    · exact .inr (.inr hprefix)

/-! ## Base64url -/

/-- Dropping the padding gives back what was padded. -/
theorem rdropWhile_append_replicate {c : Char} {cs : List Char} (h : c ∉ cs) (k : Nat) :
    (cs ++ List.replicate k c).rdropWhile (· == c) = cs := by
  induction k with
  | zero =>
    rw [List.replicate_zero, List.append_nil, List.rdropWhile_eq_self_iff]
    intro hne hlast
    exact h (beq_iff_eq.mp hlast ▸ List.getLast_mem hne)
  | succ k ih =>
    rw [List.replicate_succ', ← List.append_assoc, List.rdropWhile_concat_pos _ _ _ (by simp), ih]

/-- A digit as the url alphabet writes it. -/
def urlChar (c : Char) : Char := if c = '+' then '-' else if c = '/' then '_' else c

/-- What a written piece of a token consists of. -/
theorem urlChar_spec {c : Char} (h : (Base64.value c).isSome = true) :
    (if urlChar c = '-' then '+' else if urlChar c = '_' then '/' else urlChar c) = c ∧
      urlChar c ≠ '=' ∧ urlChar c ≠ '.' ∧ (urlChar c).toNat < 0x10000 := by
  have hne {d : Char} (hd : Base64.value d = none) : c ≠ d := by
    rintro rfl
    rw [hd] at h
    cases h
  -- the two letters that change are read back, and no other is one of them
  have hsmall := (Base64.toNat_of_value h).2
  unfold urlChar
  split
  next hplus => rw [hplus]; decide
  next =>
    split
    next hslash => rw [hslash]; decide
    next =>
      rw [if_neg (hne (by decide)), if_neg (hne (by decide))]
      exact ⟨rfl, hne (by decide), hne (by decide), by omega⟩

/-- The written text is the digits in the url alphabet. -/
theorem toList_b64url {bytes : List UInt8} {ds : List Char} {k : Nat}
    (hencode : Base64.encode bytes = ds ++ List.replicate k '=')
    (hds : ∀ c ∈ ds, (Base64.value c).isSome = true) : (b64url bytes).toList = ds.map urlChar := by
  have hpad : '=' ∉ ds.map urlChar := by
    intro hmem
    obtain ⟨c, hc, heq⟩ := List.mem_map.mp hmem
    exact (urlChar_spec (hds c hc)).2.1 heq
  have hmap : (ds ++ List.replicate k '=').map urlChar =
      ds.map urlChar ++ List.replicate k '=' := by
    rw [List.map_append, List.map_replicate]
    rfl
  show (String.ofList (((Base64.btoa bytes).toList.map urlChar).rdropWhile (· == '='))).toList = _
  rw [String.toList_ofList, Base64.btoa, String.toList_ofList, hencode, hmap,
    rdropWhile_append_replicate hpad]

/-- Base64url has no dot in it. -/
theorem not_mem_b64url (bytes : List UInt8) : '.' ∉ (b64url bytes).toList := by
  obtain ⟨ds, k, hencode, hds, -, -⟩ := Base64.encode_padding bytes
  rw [toList_b64url hencode hds]
  intro hmem
  obtain ⟨c, hc, heq⟩ := List.mem_map.mp hmem
  exact (urlChar_spec (hds c hc)).2.2.1 heq

/-- Bytes are read back from their url text, whose padding is put on again. -/
theorem b64urlToBytes_b64url (bytes : List UInt8) : b64urlToBytes (b64url bytes) = some bytes := by
  obtain ⟨ds, k, hencode, hds, hk, hlen⟩ := Base64.encode_padding bytes
  have hlist := toList_b64url hencode hds
  have hlength : JsString.length (b64url bytes) = ds.length := by
    have hofList := JsString.length_ofList (fun c hc => by
      obtain ⟨d, hd, rfl⟩ := List.mem_map.mp hc
      exact (urlChar_spec (hds d hd)).2.2.2 : ∀ c ∈ ds.map urlChar, c.toNat < 0x10000)
    rwa [← hlist, String.ofList_toList, hlist, List.length_map] at hofList
  -- the padding that was cut off is what the length is short of
  have hpad : (if ds.length % 4 = 0 then [] else List.replicate (4 - ds.length % 4) '=') =
      List.replicate k '=' := by
    split
    · rw [show k = 0 by omega]
      rfl
    · rw [show 4 - ds.length % 4 = k by omega]
  have hback : (ds.map urlChar).map (fun c => if c = '-' then '+' else if c = '_' then '/' else c) =
      ds := by
    rw [List.map_map]
    exact (List.map_congr_left fun c hc => (urlChar_spec (hds c hc)).1).trans (List.map_id ds)
  unfold b64urlToBytes
  dsimp only
  rw [hlength, hpad, hlist, hback, ← hencode]
  exact Base64.atob_btoa bytes

/-- A key is read back from its text. -/
theorem utf8FromB64url_b64urlUtf8 {key : String} (h : ∀ c ∈ key.toList, c.toNat < 0x80) :
    utf8FromB64url (b64urlUtf8 key) = some key := by
  rw [utf8FromB64url, b64urlUtf8, b64urlToBytes_b64url, Option.map_some,
    TextDecoder.text_encode_ascii h]

/-! ## The signed text -/

/-- Texts with a separator in them agree up to the first one and behind it. -/
theorem append_cons_inj {c : Char} {xs ys xs' ys' : List Char} (hx : c ∉ xs) (hx' : c ∉ xs')
    (h : xs ++ c :: ys = xs' ++ c :: ys') : xs = xs' ∧ ys = ys' := by
  induction xs generalizing xs' with
  | nil =>
    cases xs' with
    | nil => exact ⟨rfl, (List.cons.inj h).2⟩
    | cons x xs' => exact absurd ((List.cons.inj h).1 ▸ List.mem_cons_self) hx'
  | cons x xs ih =>
    cases xs' with
    | nil => exact absurd ((List.cons.inj h).1 ▸ List.mem_cons_self) hx
    | cons x' xs' =>
      obtain ⟨hhead, htail⟩ := List.cons.inj h
      obtain ⟨hxs, hys⟩ := ih (fun hmem => hx (List.mem_cons_of_mem x hmem))
        (fun hmem => hx' (List.mem_cons_of_mem x' hmem)) htail
      exact ⟨hhead ▸ hxs ▸ rfl, hys⟩

/-- The signed text: the kind, the expiry and the key, one a line. -/
theorem toList_payload (kind : MediaTokenKind) (exp : Number) (objectKey : String) :
    (payload kind exp objectKey).toList =
      kind.text.toList ++ '\n' :: (exp.text.toList ++ '\n' :: objectKey.toList) := by
  simp [payload]

/-- The signed text determines kind, expiry and key. -/
theorem payload_injective {kind kind' : MediaTokenKind} {exp exp' : Number}
    {objectKey objectKey' : String}
    (h : payload kind exp objectKey = payload kind' exp' objectKey') :
    kind = kind' ∧ exp = exp' ∧ objectKey = objectKey' := by
  have hlist := congrArg String.toList h
  rw [toList_payload, toList_payload] at hlist
  have hkind (k : MediaTokenKind) : '\n' ∉ k.text.toList := by cases k <;> decide
  -- neither the kind nor the expiry has a line break in it
  obtain ⟨hk, hrest⟩ := append_cons_inj (hkind kind) (hkind kind') hlist
  obtain ⟨he, hkey⟩ := append_cons_inj (Number.newline_not_mem_text exp)
    (Number.newline_not_mem_text exp') hrest
  refine ⟨?_, Number.text_injective (String.toList_inj.mp he), String.toList_inj.mp hkey⟩
  cases kind <;> cases kind' <;> first | rfl | exact absurd hk (by decide)

/-! ## Tokens that verify -/

section digests

variable {digests : Digests} {secret : String}

/-- The signature a token carries. -/
def tokenSignature (token : String) : Option (List UInt8) :=
  match JsString.split token '.' with
  | [_, _, _, sigB64] => b64urlToBytes sigB64
  | _ => none

/-- A token that verifies carries the HMAC of what it names. -/
theorem signature_of_verify {token : String} {nowSec : Number} {parsed : MediaToken}
    (h : verifyMediaToken digests secret token nowSec = some parsed) :
    tokenSignature token =
      some (signature digests secret parsed.kind parsed.exp parsed.objectKey) := by
  unfold verifyMediaToken at h
  split at h
  next kindRaw expRaw keyB64 sigB64 hsplit =>
    rw [tokenSignature, hsplit]
    dsimp only at h ⊢
    split at h
    next => cases h
    next kind hkind =>
      split at h
      next => cases h
      next hexp =>
        split at h
        next => cases h
        next objectKey hkey =>
          split at h
          next => cases h
          next hsafe =>
            split at h
            next => cases h
            next sigBytes hsig =>
              split at h
              -- the one branch that returns has compared the two
              next hverify =>
                cases h
                rw [hsig, ← hverify]
              next => cases h
  next => cases h

/-- A HMAC nobody forges: a message whose HMAC a token carries was signed for one of the
    names in `signed`. -/
def Unforged (digests : Digests) (secret : String) (signed : Set MediaToken) (token : String) :
    Prop :=
  ∀ message tag, tokenSignature token = some tag →
    digests.hmac (hmacKey digests secret) message = tag →
    ∃ name ∈ signed, message = TextEncoder.encode (payload name.kind name.exp name.objectKey)

/-- What verifies was signed. -/
theorem mem_signed_of_verify {signed : Set MediaToken} {token : String} {nowSec : Number}
    {parsed : MediaToken} (hideal : Unforged digests secret signed token)
    (h : verifyMediaToken digests secret token nowSec = some parsed) : parsed ∈ signed := by
  obtain ⟨name, hname, hmessage⟩ := hideal _ _ (signature_of_verify h) rfl
  obtain ⟨hkind, hexp, hkey⟩ := payload_injective (TextEncoder.encode_injective hmessage)
  have heq : parsed = name := by
    cases parsed
    cases name
    cases hkind
    cases hexp
    cases hkey
    rfl
  exact heq ▸ hname

/-! ## Minted tokens -/

/-- The expiry of a minted token is the sum. -/
theorem hasValue_exp (kind : MediaTokenKind) {ttl : Nat} (httl : ttl ≤ 86400) (objectKey : String)
    (now : EpochSeconds) :
    (mintToken digests secret kind ttl objectKey now.number).exp.HasValue
      ((now.sec + ttl : Int) : ℚ) := by
  have hrange := now.range
  have hnow : now.number.HasValue now.sec := Number.ofRat_intCast (by rw [abs_le]; omega)
  have httl : (Number.ofRat ttl).HasValue ((ttl : Int) : ℚ) := by
    have hcast : (ttl : ℚ) = ((ttl : Int) : ℚ) := by push_cast; rfl
    rw [hcast]
    exact Number.ofRat_intCast (by rw [abs_le]; omega)
  exact hnow.add_intCast httl (by rw [abs_le]; omega)

/-- No piece of a signed token has a dot in it. -/
theorem split_sign (kind : MediaTokenKind) {exp : Number} {n : Int} (hexp : exp.HasValue n)
    (hn : n.natAbs < 2 ^ 53) (objectKey : String) :
    JsString.split (sign digests secret kind exp objectKey) '.' =
      [kind.text, exp.text, b64urlUtf8 objectKey,
        b64url (signature digests secret kind exp objectKey)] := by
  have hkind : '.' ∉ kind.text.toList := by cases kind <;> decide
  -- a whole number is written without a point
  have htext : '.' ∉ exp.text.toList := by
    rw [Number.text_intCast hexp hn, List.mem_append, not_or]
    constructor
    · split <;> decide
    · intro hmem
      exact absurd (Number.digits_toDigits _ '.' hmem) (by decide)
  have hkey : '.' ∉ (b64urlUtf8 objectKey).toList := not_mem_b64url _
  have hlist : (sign digests secret kind exp objectKey).toList = kind.text.toList ++ '.' ::
      (exp.text.toList ++ '.' :: ((b64urlUtf8 objectKey).toList ++ '.' ::
        (b64url (signature digests secret kind exp objectKey)).toList)) := by
    simp [sign]
  apply JsString.split_eq
  rw [hlist, JsString.splitChars_append hkind, JsString.splitChars_append htext,
    JsString.splitChars_append hkey, JsString.splitChars_of_not_mem (not_mem_b64url _)]
  rfl

/-- A safe key is ASCII. -/
theorem ascii_of_isSafe {key : String} (h : isSafeObjectKey key = true) :
    ∀ c ∈ key.toList, c.toNat < 0x80 := by
  have hfolder {folder : String} (hlen : folder.toList.length = 6)
      (hstart : JsString.startsWith key folder = true) (hrest : restIsSafe folder key = true)
      (hchars : folder.toList.all isKeyChar = true) : ∀ c ∈ key.toList, c.toNat < 0x80 := by
    obtain ⟨rest, hkey⟩ := List.isPrefixOf_iff_prefix.mp hstart
    have hall := (Bool.and_eq_true_iff.mp hrest).2
    rw [← hkey, List.drop_left] at hall
    intro c hc
    rw [← hkey] at hc
    -- the folder and the rest of the key
    rcases List.mem_append.mp hc with hc | hc
    · exact isKeyChar_lt (List.all_eq_true.mp hchars c hc)
    · exact isKeyChar_lt (List.all_eq_true.mp hall c hc)
  unfold isSafeObjectKey at h
  split_ifs at h with hlength hincludes hvideo hmusic himage
  · exact hfolder rfl hvideo h (by decide)
  · exact hfolder rfl hmusic h (by decide)
  · exact hfolder rfl himage h (by decide)

/-- A signed token verifies up to its expiry, and names what it was signed for. -/
theorem verify_sign (kind : MediaTokenKind) {exp : Number} {n : Int} (hexp : exp.HasValue n)
    (hn : n.natAbs < 2 ^ 53) {objectKey : String} (hsafe : isSafeObjectKey objectKey = true)
    (t : Double) :
    verifyMediaToken digests secret (sign digests secret kind exp objectKey) (.finite t) =
      if t.val ≤ n then some ⟨kind, objectKey, exp⟩ else none := by
  have hne : objectKey ≠ "" := by
    rintro rfl
    exact absurd hsafe (by decide)
  have hkind : MediaTokenKind.ofText kind.text = some kind := by cases kind <;> rfl
  -- the only check that can fail is the one of the clock
  have hexpired : exp.lt (.finite t) = true ↔ (n : ℚ) < t.val := hexp.lt_iff ⟨t, rfl, rfl⟩
  unfold verifyMediaToken
  rw [split_sign kind hexp hn objectKey]
  dsimp only
  rw [hkind, Number.ofText_text, utf8FromB64url_b64urlUtf8 (ascii_of_isSafe hsafe),
    b64urlToBytes_b64url]
  dsimp only
  rw [hexp.isInteger, hsafe, if_pos rfl, decide_eq_false hne]
  by_cases hle : t.val ≤ n
  · have hlive : exp.lt (.finite t) = false :=
      Bool.eq_false_iff.mpr fun h => not_lt.mpr hle (hexpired.mp h)
    rw [hlive, if_pos hle]
    rfl
  · rw [hexpired.mpr (not_le.mp hle), if_neg hle]
    rfl

/-- So does a minted one. -/
theorem verify_minted (kind : MediaTokenKind) {ttl : Nat} (httl : ttl ≤ 86400) {objectKey : String}
    (hsafe : isSafeObjectKey objectKey = true) (now : EpochSeconds) (t : Double) :
    verifyMediaToken digests secret (mintToken digests secret kind ttl objectKey now.number).token
        (.finite t) =
      if t.val ≤ ((now.sec + ttl : Int) : ℚ) then
        some ⟨kind, objectKey, (mintToken digests secret kind ttl objectKey now.number).exp⟩
      else none := by
  have hrange := now.range
  exact verify_sign kind (hasValue_exp kind httl objectKey now) (by omega) hsafe t

/-- A minted token verifies for its kind and key at every instant up to the expiry it was
    returned with, and at none after. -/
def VerifiesUntilExpiry (digests : Digests) (secret : String) (kind : MediaTokenKind)
    (objectKey : String) (minted : Minted) : Prop :=
  ∃ expiry : Double, minted.exp = .finite expiry ∧ ∀ t : Double,
    verifyMediaToken digests secret minted.token (.finite t) =
      if t.val ≤ expiry.val then some ⟨kind, objectKey, minted.exp⟩ else none

/-- A minted token verifies until it expires, whatever its kind. -/
theorem verifiesUntilExpiry_minted (kind : MediaTokenKind) {ttl : Nat} (httl : ttl ≤ 86400)
    {objectKey : String} (hsafe : isSafeObjectKey objectKey = true) (now : EpochSeconds) :
    VerifiesUntilExpiry digests secret kind objectKey
      (mintToken digests secret kind ttl objectKey now.number) := by
  obtain ⟨expiry, hexp, hval⟩ :=
    hasValue_exp kind httl objectKey now
  refine ⟨expiry, hexp, ?_⟩
  intro t
  rw [hval]
  exact verify_minted kind httl hsafe now t

end digests

/-- New object keys are safe. Tokens minted for safe keys verify to their kind, key and
    expiry up to the expiry and not after. With a HMAC that nobody forges, a token that
    verifies names something that was signed; with one whose signatures differ, a token
    with an upload token's signature names what that token was minted for. -/
theorem media_tokens (digests : Digests) (secret : String) :
    (∀ (uuid : Uuid) (accountId requestId : String),
      isSafeObjectKey (newVideoObjectKey uuid accountId requestId) = true ∧
      isSafeObjectKey (newMusicObjectKey uuid accountId requestId) = true ∧
      isSafeObjectKey (newImageObjectKey uuid accountId requestId) = true) ∧
    (∀ objectKey, isSafeObjectKey objectKey = true → ∀ now : EpochSeconds,
      VerifiesUntilExpiry digests secret .u objectKey
        (mintUploadToken digests secret objectKey now.number) ∧
      VerifiesUntilExpiry digests secret .d objectKey
        (mintDownloadToken digests secret objectKey now.number)) ∧
    (∀ (signed : Set MediaToken) (token : String) (nowSec : Number) (parsed : MediaToken),
      Unforged digests secret signed token →
      verifyMediaToken digests secret token nowSec = some parsed → parsed ∈ signed) ∧
    (∀ (objectKey : String) (now : EpochSeconds) (token : String) (nowSec : Number)
      (parsed : MediaToken),
      let minted := mintUploadToken digests secret objectKey now.number
      (∀ message, digests.hmac (hmacKey digests secret) message =
        signature digests secret .u minted.exp objectKey →
        message = TextEncoder.encode (payload .u minted.exp objectKey)) →
      tokenSignature token = some (signature digests secret .u minted.exp objectKey) →
      verifyMediaToken digests secret token nowSec = some parsed →
      parsed = ⟨.u, objectKey, minted.exp⟩) := by
  refine ⟨?_, ?_, ?_, ?_⟩
  · intro uuid accountId requestId
    exact ⟨isSafeObjectKey_new (by simp [IsKind]) uuid accountId requestId,
      isSafeObjectKey_new (by simp [IsKind]) uuid accountId requestId,
      isSafeObjectKey_new (by simp [IsKind]) uuid accountId requestId⟩
  · intro objectKey hsafe now
    exact ⟨verifiesUntilExpiry_minted .u (by decide) hsafe now,
      verifiesUntilExpiry_minted .d (by decide) hsafe now⟩
  · intro signed token nowSec parsed hideal h
    exact mem_signed_of_verify hideal h
  · intro objectKey now token nowSec parsed minted hdiffer hsignature h
    -- the token's signature is the upload's alone
    have hideal : Unforged digests secret {⟨.u, objectKey, minted.exp⟩} token := by
      intro message tag htag hmessage
      rw [hsignature] at htag
      cases htag
      exact ⟨_, rfl, hdiffer message hmessage⟩
    exact Set.mem_singleton_iff.mp (mem_signed_of_verify hideal h)

/-- The sample signing secret. -/
def sampleSecret : String := "a-signing-secret"

/-- A video's object key. -/
def sampleKey : String := "video/a/b-c.mp4"

/-- What a token was minted for at second 1700000000. -/
def sampleName : MediaToken := ⟨.u, sampleKey, .ofRat 1700001200⟩

/-- The signature the sample digests give for the sample key. -/
def sampleSignature : List UInt8 :=
  [37, 203, 161, 118, 8, 244, 133, 41, 78, 162, 79, 196, 203, 141, 94, 19,
    148, 17, 144, 11, 32, 70, 15, 14, 83, 37, 50, 75, 208, 134, 177, 253]

/-- The platform's digests of what the sample needs, and nothing of anything else. -/
def sampleDigests : Digests where
  sha256 bytes :=
    if bytes = TextEncoder.encode ("prism-media-v1:" ++ sampleSecret) then
      [45, 31, 116, 70, 24, 228, 117, 188, 73, 163, 238, 135, 153, 43, 0, 250,
        122, 181, 209, 111, 5, 177, 32, 3, 201, 138, 183, 11, 59, 162, 205, 128]
    else []
  hmac _ message :=
    if message =
        TextEncoder.encode (payload sampleName.kind sampleName.exp sampleName.objectKey) then
      sampleSignature
    else []

/-- The token minted for the sample key. -/
def sampleToken : String :=
  "u.1700001200.dmlkZW8vYS9iLWMubXA0.Jcuhdgj0hSlOok_Ey41eE5QRkAsgRg8OUyUyS9CGsf0"

/-- The sample's signature is that of no other message. -/
theorem message_of_sampleSignature {message : List UInt8}
    (h : sampleDigests.hmac (hmacKey sampleDigests sampleSecret) message = sampleSignature) :
    message = TextEncoder.encode (payload sampleName.kind sampleName.exp sampleName.objectKey) := by
  by_contra hother
  exact absurd ((if_neg hother).symm.trans h) (by decide)

/-- The sample token verifies until it expires, and names the sample key. -/
theorem media_tokens_sample :
    VerifiesUntilExpiry sampleDigests sampleSecret .u sampleKey
        (mintUploadToken sampleDigests sampleSecret sampleKey (.ofRat 1700000000)) ∧
      sampleName ∈ ({sampleName} : Set MediaToken) ∧
      sampleName = ⟨.u, sampleKey,
        (mintUploadToken sampleDigests sampleSecret sampleKey (.ofRat 1700000000)).exp⟩ := by
  have hexp : (mintUploadToken sampleDigests sampleSecret sampleKey (.ofRat 1700000000)).exp =
      sampleName.exp := by
    decide +kernel
  -- the sample digests sign the sample key as its token is signed
  have hsigned : signature sampleDigests sampleSecret .u sampleName.exp sampleKey =
      sampleSignature := if_pos rfl
  have hsignature : tokenSignature sampleToken = some sampleSignature := by decide +kernel
  have hverify : verifyMediaToken sampleDigests sampleSecret sampleToken (.ofRat 1700000000) =
      some sampleName := by
    decide +kernel
  refine ⟨?_, ?_, ?_⟩
  · exact ((media_tokens sampleDigests sampleSecret).2.1 sampleKey (by decide +kernel)
      ⟨1700000000, by decide⟩).1
  · refine (media_tokens sampleDigests sampleSecret).2.2.1 _ _ _ _ ?_ hverify
    intro message tag htag hmessage
    rw [hsignature] at htag
    cases htag
    exact ⟨sampleName, rfl, message_of_sampleSignature hmessage⟩
  · refine (media_tokens sampleDigests sampleSecret).2.2.2 sampleKey ⟨1700000000, by decide⟩
      sampleToken _ _ ?_ ?_ hverify
    · intro message hmessage
      change message = TextEncoder.encode (payload .u (mintUploadToken sampleDigests sampleSecret
        sampleKey (.ofRat 1700000000)).exp sampleKey)
      change _ = signature sampleDigests sampleSecret .u (mintUploadToken sampleDigests sampleSecret
        sampleKey (.ofRat 1700000000)).exp sampleKey at hmessage
      rw [hexp] at hmessage ⊢
      exact message_of_sampleSignature (hmessage.trans hsigned)
    · change _ = some (signature sampleDigests sampleSecret .u (mintUploadToken sampleDigests
        sampleSecret sampleKey (.ofRat 1700000000)).exp sampleKey)
      rw [hexp, hsigned]
      exact hsignature

end ControlPlane.Media
