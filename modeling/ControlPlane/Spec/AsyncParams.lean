import ControlPlane.Model.Routes.LongrunWorkflow
import ControlPlane.Spec.GatewayJoin

/-!
# A job and the call it stands for

The workflow rebuilds the params of its call from the payload it was handed. They are
compared with the ones the door sends in place: an upload address is left out, and an
image is what it decodes to.

## Key results

- `referenceImage_longRunParams`: a staged image comes back as the canonical data URL
- `normalParams_imageToVideoParams` / `normalParams_buildImageParams`: params depend on
  the image only through its normal form, but for the bare base64 of FLUX.2
- `async_params`: a job sends the params of the door exactly when nothing is lost on the way
-/

namespace ControlPlane

open JsString (startsWith)
open NonChatGateOk (stageable stagedDataUrl stagedImage MEDIA_MAX_BYTES)

/-! ## Sizes -/

mutual

/-- No text of a value is shorter: a string is quoted, a name has its colon. -/
def Json.leastLength : Json → Nat
  | .str text => JsString.length text + 2
  | .arr items => itemsLength items
  | .obj fields => fieldsLength fields
  | .null | .bool _ | .num _ => 1

/-- The least length of the items of an array, their commas included. -/
def itemsLength : List Json → Nat
  | [] => 0
  | item :: items => item.leastLength + itemsLength items

/-- The least length of the fields of an object: quotes, colon and comma of each. -/
def fieldsLength : List (String × Json) → Nat
  | [] => 0
  | (name, value) :: fields => JsString.length name + 3 + value.leastLength + fieldsLength fields

end

/-- A field's value is no longer than the object that holds it. -/
theorem leastLength_lookup {fields : List (String × Json)} {name : String} {value : Json}
    (h : fields.lookup name = some value) : value.leastLength ≤ fieldsLength fields := by
  induction fields with
  | nil => cases h
  | cons field fields ih =>
    obtain ⟨key, first⟩ := field
    rw [List.lookup_cons] at h
    rw [fieldsLength]
    split at h
    -- the field that is found is part of the object
    next =>
      obtain rfl := Option.some.inj h
      omega
    next =>
      have := ih h
      omega

/-- A string a door reads is a field of the body, trimmed, and not blank. -/
theorem requireString_spec {raw : Json} {key text : String} (h : requireString raw key = some text) :
    ∃ sent, raw.strField key = some sent ∧ text = JsString.trim sent ∧ text ≠ "" := by
  unfold requireString at h
  obtain ⟨trimmed, htrimmed, hnonempty⟩ := Option.bind_eq_some_iff.mp h
  obtain ⟨sent, hsent, rfl⟩ := Option.map_eq_some_iff.mp htrimmed
  unfold nonempty at hnonempty
  split at hnonempty
  · cases hnonempty
  -- not empty once it is trimmed
  next hne =>
    obtain rfl := Option.some.inj hnonempty
    exact ⟨sent, hsent, rfl, hne⟩

/-- A required string is not blank. -/
theorem trim_requireString {raw : Json} {key text : String} (h : requireString raw key = some text) :
    JsString.trim text ≠ "" := by
  obtain ⟨sent, -, rfl, hne⟩ := requireString_spec h
  rwa [JsString.trim_trim]

/-- A string a door reads is shorter than the body by its quotes. -/
theorem length_requireString {raw : Json} {key text : String} (h : requireString raw key = some text) :
    JsString.length text + 2 ≤ raw.leastLength := by
  obtain ⟨sent, hsent, rfl, -⟩ := requireString_spec h
  have htrim := JsString.length_trim_le sent
  unfold Json.strField Json.field at hsent
  cases raw with
  | obj fields =>
    dsimp only at hsent
    split at hsent
    next value hfield =>
      obtain rfl := Option.some.inj hsent
      -- the quotes of the text are part of the object that holds it
      have hlookup := leastLength_lookup hfield
      simp only [Json.leastLength] at hlookup ⊢
      omega
    next => cases hsent
  | null | bool | num | str | arr => cases hsent

/-! ## Normal forms -/

/-- A reference image, by its content type and its bytes. -/
def normalImage (text : String) : String :=
  match stageable text with
  | some (contentType, bytes) => DataUrl.write contentType (Base64.btoa bytes)
  | none => text

/-- Bare base64, by its bytes. -/
def normalBase64 (text : String) : String :=
  match base64ToBytes text with
  | .ok bytes => Base64.btoa bytes
  | .error _ => text

/-- A string as it is read, alone or one level down. -/
def normalValue (read : String → String) : Json → Json
  | .str text => .str (read text)
  | .arr [.str text] => .arr [.str (read text)]
  | .obj [(name, .str text)] => .obj [(name, .str (read text))]
  | value => value

/-- The fields of params that hold the reference image of some provider. -/
def imageFields : List String := ["image", "images", "image_input", "first_frame_image"]

/-- A field of params, its image read; the upload address is left out. -/
def normalField (field : String × Json) : List (String × Json) :=
  if field.1 = "output" then []
  else if field.1 ∈ imageFields then [(field.1, normalValue normalImage field.2)]
  else if field.1 = "input_image_0" then [(field.1, normalValue normalBase64 field.2)]
  else [field]

/-- Params up to the upload address and the writing of an image. -/
def normalParams : Json → Json
  | .obj fields => .obj (fields.flatMap normalField)
  | params => params

/-! ## Images -/

/-- What is staged of a data URL. -/
theorem stageable_spec {url contentType : String} {bytes : List UInt8}
    (h : stageable url = some (contentType, bytes)) :
    ∃ data, url = DataUrl.write contentType data ∧ ';' ∉ contentType.toList ∧
      DataUrl.isPlain contentType.toList = true ∧ Base64.atob data = some bytes ∧
      ¬(bytes.length = 0 ∨ MEDIA_MAX_BYTES < bytes.length) := by
  unfold stageable at h
  split at h
  · cases h
  next found data hexec =>
    split at h
    · cases h
    next decoded hatob =>
      split at h
      · cases h
      next hsize =>
        obtain ⟨rfl, rfl⟩ := Prod.mk.inj (Option.some.inj h)
        obtain ⟨hurl, hsemi⟩ := DataUrl.eq_write_of_exec stagedDataUrl rfl hexec
        refine ⟨data, hurl, hsemi, ?_, hatob, hsize⟩
        rw [hurl, DataUrl.exec_write _ hsemi] at hexec
        -- the pattern matched, so the media type is one it takes
        split at hexec
        next htakes =>
          simp only [Bool.and_eq_true] at htakes
          exact htakes.1.1
        next => cases hexec

/-- The text that bytes are written as. -/
theorem btoa_ne_nil (bytes : List UInt8) (h : bytes.length ≠ 0) :
    (Base64.btoa bytes).toList.isEmpty = false := by
  rw [Base64.btoa, String.toList_ofList]
  rcases bytes with _ | ⟨a, _ | ⟨b, _ | ⟨c, rest⟩⟩⟩
  · exact absurd rfl h
  · rfl
  · rfl
  · rfl

/-- A staged image is staged again as itself. -/
theorem stageable_write {url contentType : String} {bytes : List UInt8}
    (h : stageable url = some (contentType, bytes)) :
    stageable (DataUrl.write contentType (Base64.btoa bytes)) = some (contentType, bytes) := by
  obtain ⟨data, -, hsemi, hplain, -, hsize⟩ := stageable_spec h
  -- what was written is matched again, with the same media type and data
  have hexec : stagedDataUrl.exec (DataUrl.write contentType (Base64.btoa bytes)) =
      some (contentType, Base64.btoa bytes) := by
    have hdata := btoa_ne_nil bytes (fun hzero => hsize (Or.inl hzero))
    rw [DataUrl.exec_write _ hsemi, if_pos]
    rw [hdata]
    show (DataUrl.isPlain contentType.toList && !false && (true || _)) = true
    rw [hplain]
    rfl
  unfold stageable
  rw [hexec]
  dsimp only
  rw [Base64.atob_btoa]
  dsimp only
  rw [if_neg hsize]

/-- A url that can be staged is, in normal form, the data url of its bytes. -/
theorem normalImage_of_stageable {url contentType : String} {bytes : List UInt8}
    (h : stageable url = some (contentType, bytes)) :
    normalImage url = DataUrl.write contentType (Base64.btoa bytes) := by
  rw [normalImage, h]

/-- Writing the staged bytes back as a data url keeps the normal form. -/
theorem normalImage_write {url contentType : String} {bytes : List UInt8}
    (h : stageable url = some (contentType, bytes)) :
    normalImage (DataUrl.write contentType (Base64.btoa bytes)) = normalImage url := by
  rw [normalImage_of_stageable (stageable_write h), normalImage_of_stageable h]

/-- Writing an image again adds at most the padding. -/
theorem length_write_le {url contentType : String} {bytes : List UInt8}
    (h : stageable url = some (contentType, bytes)) :
    JsString.length (DataUrl.write contentType (Base64.btoa bytes)) ≤ JsString.length url + 2 := by
  obtain ⟨data, hurl, -, -, hatob, -⟩ := stageable_spec h
  have hbtoa : JsString.length (Base64.btoa bytes) = (Base64.encode bytes).length := by
    apply JsString.length_ofList
    intro c hc
    have := (Base64.toNat_of_isCode (Base64.isCode_encode bytes c hc)).2
    omega
  -- written again the data may be padded, by two characters
  have hpadding := Base64.length_encode_le_of_decode hatob
  have hunits := JsString.toList_length_le data
  rw [hurl]
  simp only [DataUrl.write, JsString.length_append]
  omega

/-- A written data url begins with its scheme. -/
theorem startsWith_write (contentType data : String) :
    startsWith (DataUrl.write contentType data) "data:" = true := by
  unfold DataUrl.write
  rw [String.append_assoc, String.append_assoc]
  exact JsString.startsWith_append _ _

/-! ### Bare base64 -/

/-- No base64 character is trimmed away. -/
theorem isTrimmed_of_isCode {c : Char} (h : Base64.isCode c = true) : JsString.isTrimmed c = false := by
  obtain ⟨hlow, hhigh⟩ := Base64.toNat_of_isCode h
  unfold JsString.isTrimmed
  simp only [Bool.or_eq_false_iff, Bool.and_eq_false_iff, beq_eq_false_iff_ne, ne_eq,
    decide_eq_false_iff_not]
  omega

/-- The white space that `atob` skips is what is taken out before. -/
theorem base64ToBytes_of_atob {text : String} {bytes : List UInt8}
    (h : Base64.atob text = some bytes) : base64ToBytes text = .ok bytes := by
  -- what the source trims, `atob` would have passed over
  have hsame : (text.toList.filter fun c => !JsString.isTrimmed c).filter
      (fun c => !Base64.isSpace c) = text.toList.filter fun c => !Base64.isSpace c := by
    rw [List.filter_filter]
    apply List.filter_congr
    intro c hc
    cases Base64.isCode_of_decode h c hc with
    | inl hspace => rw [hspace]; rfl
    | inr hcode => rw [isTrimmed_of_isCode hcode, Bool.not_false, Bool.and_true]
  have hatob : Base64.atob (String.ofList (text.toList.filter fun c => !JsString.isTrimmed c)) =
      some bytes := by
    rw [← h]
    unfold Base64.atob Base64.decode
    rw [String.toList_ofList, hsame]
  rw [base64ToBytes, hatob]

/-- Base64 that decodes is, in normal form, the encoding of its bytes. -/
theorem normalBase64_of_atob {text : String} {bytes : List UInt8}
    (h : Base64.atob text = some bytes) : normalBase64 text = Base64.btoa bytes := by
  rw [normalBase64, base64ToBytes_of_atob h]

/-- A text with a colon is no base64. -/
theorem normalBase64_of_colon {text : String} (h : ':' ∈ text.toList) : normalBase64 text = text := by
  -- a colon is no base64
  have herror : ∀ bytes, base64ToBytes text ≠ .ok bytes := by
    intro bytes hok
    unfold base64ToBytes at hok
    split at hok
    next hatob =>
      have hmem : ':' ∈ (String.ofList (text.toList.filter fun c => !JsString.isTrimmed c)).toList := by
        rw [String.toList_ofList]
        exact List.mem_filter.mpr ⟨h, by decide⟩
      cases Base64.isCode_of_decode hatob ':' hmem with
      | inl hspace => revert hspace; decide
      | inr hcode => revert hcode; decide
    next => cases hok
  unfold normalBase64
  split
  next bytes hok => exact absurd hok (herror bytes)
  next => rfl

/-- A data url has a colon, which no base64 text has. -/
theorem colon_mem_write (contentType data : String) :
    ':' ∈ (DataUrl.write contentType data).toList := by
  rw [DataUrl.toList_write]
  exact List.mem_append_left _ (by decide)

/-- What is sent of a staged image without its prefix: the canonical base64. -/
theorem strip_write {url contentType : String} {bytes : List UInt8}
    (h : stageable url = some (contentType, bytes)) :
    stripDataUrlToBase64 (DataUrl.write contentType (Base64.btoa bytes)) = Base64.btoa bytes := by
  obtain ⟨data, -, hsemi, hplain, -, hsize⟩ := stageable_spec h
  have hdata := btoa_ne_nil bytes (fun hzero => hsize (Or.inl hzero))
  -- the content type has no line end in it, by how the url was read
  have hany : DataUrl.isAnything contentType.toList = true := by
    unfold DataUrl.isPlain at hplain
    exact (Bool.and_eq_true _ _ ▸ hplain).1
  -- nor has base64, whose characters are printable
  have hdots : (Base64.btoa bytes).toList.all DataUrl.isDot = true := by
    rw [List.all_eq_true, Base64.btoa, String.toList_ofList]
    intro c hc
    obtain ⟨hlow, hhigh⟩ := Base64.toNat_of_isCode (Base64.isCode_encode bytes c hc)
    unfold DataUrl.isDot
    simp only [Bool.not_eq_true', Bool.or_eq_false_iff, beq_eq_false_iff_ne, ne_eq]
    omega
  have hexec : anyDataUrl.exec (DataUrl.write contentType (Base64.btoa bytes)) =
      some (contentType, Base64.btoa bytes) := by
    rw [DataUrl.exec_write _ hsemi, if_pos]
    rw [hdata, hdots]
    show (DataUrl.isAnything contentType.toList && !false && (false || true)) = true
    rw [hany]
    rfl
  rw [stripDataUrlToBase64, hexec]

/-- FLUX.2 is sent the same bytes exactly when the pattern that strips the prefix takes
    the data URL: it stops at a line break. -/
theorem normalBase64_strip_iff {url contentType : String} {bytes : List UInt8}
    (h : stageable url = some (contentType, bytes)) :
    normalBase64 (stripDataUrlToBase64 (DataUrl.write contentType (Base64.btoa bytes))) =
        normalBase64 (stripDataUrlToBase64 url) ↔ (anyDataUrl.exec url).isSome = true := by
  rw [strip_write h, normalBase64_of_atob (Base64.atob_btoa bytes)]
  obtain ⟨data, hurl, hsemi, -, hatob, -⟩ := stageable_spec h
  have hexec := DataUrl.exec_write anyDataUrl hsemi data
  unfold stripDataUrlToBase64
  cases hfound : anyDataUrl.exec url with
  | some found =>
    rw [hurl, hexec] at hfound
    split at hfound
    next =>
      obtain rfl := Option.some.inj hfound
      exact iff_of_true (normalBase64_of_atob hatob).symm rfl
    next => cases hfound
  | none =>
    -- the whole address is sent, which is no base64
    refine iff_of_false ?_ Bool.false_ne_true
    intro heq
    have hcolon := colon_mem_write contentType data
    dsimp only at heq
    rw [hurl, normalBase64_of_colon hcolon] at heq
    rw [← heq, Base64.btoa, String.toList_ofList] at hcolon
    have hcode := Base64.isCode_encode bytes ':' hcolon
    revert hcode
    decide

/-! ## Params -/

/-- A data url within the length is accepted where data urls are. -/
theorem acceptedImage_write {schemes : List String} (hscheme : "data:" ∈ schemes)
    {contentType data : String}
    (hlength : JsString.length (DataUrl.write contentType data) ≤ MAX_AUDIO_B64_CHARS) :
    acceptedImage schemes (some (DataUrl.write contentType data)) =
      some (DataUrl.write contentType data) := by
  have hpos : 0 < JsString.length (DataUrl.write contentType data) := by
    simp only [DataUrl.write, JsString.length_append]
    have : JsString.length "data:" = 5 := rfl
    omega
  have hany : schemes.any (startsWith (DataUrl.write contentType data)) = true :=
    List.any_eq_true.mpr ⟨"data:", hscheme, startsWith_write contentType data⟩
  simp [acceptedImage, Option.filter, hpos, hlength, hany]

/-- No field of the params but the address depends on the upload. -/
theorem normalField_outputField (uploadUrl : Option String) :
    (outputField uploadUrl).flatMap normalField = [] := by
  cases uploadUrl <;> rfl

/-- Image-to-video params depend on the image through its normal form. -/
theorem normalParams_imageToVideoParams (modelId prompt : String) {image image' : String}
    (h : normalImage image = normalImage image') (duration : Json) (uploadUrl uploadUrl' : Option String) :
    normalParams (imageToVideoParams modelId prompt image duration uploadUrl) =
      normalParams (imageToVideoParams modelId prompt image' duration uploadUrl') := by
  unfold imageToVideoParams
  repeat' split
  all_goals
    simp only [normalParams, List.flatMap_append, List.flatMap_cons, List.flatMap_nil,
      normalField_outputField, List.append_nil]
    simp [normalField, imageFields, normalValue, h]

/-- The upload url does not count for the params of a text-to-video call. -/
theorem normalParams_textToVideoParams (modelId prompt : String) (duration : Json)
    (uploadUrl uploadUrl' : Option String) :
    normalParams (textToVideoParams modelId prompt duration uploadUrl) =
      normalParams (textToVideoParams modelId prompt duration uploadUrl') := by
  unfold textToVideoParams
  repeat' split
  all_goals
    simp only [normalParams, List.flatMap_append, List.flatMap_cons, List.flatMap_nil,
      normalField_outputField, List.append_nil]

/-- The two families share no id. -/
theorem not_schnell_of_isFlux2Model {modelId : String} (h : isFlux2Model modelId = true) :
    startsWith modelId "@cf/black-forest-labs/flux-1-schnell" = false := by
  rw [← Bool.not_eq_true]
  intro hschnell
  have hflux := List.isPrefixOf_iff_prefix.mp h
  have hprefix := List.prefix_of_prefix_length_le hflux (List.isPrefixOf_iff_prefix.mp hschnell)
    (by decide)
  revert hprefix
  decide

/-- Image params depend on a staged image through its normal form, but for FLUX.2, where the
    prefix must be one that is stripped. -/
theorem normalParams_buildImageParams (modelId prompt : String) {url contentType : String}
    {bytes : List UInt8} (h : stageable url = some (contentType, bytes))
    (hlength : JsString.length url + 2 ≤ MAX_AUDIO_B64_CHARS) :
    normalParams (buildImageParams modelId prompt
        (some (DataUrl.write contentType (Base64.btoa bytes)))) =
      normalParams (buildImageParams modelId prompt (some url)) ↔
    (isFlux2Model modelId = true → (anyDataUrl.exec url).isSome = true) := by
  have hsame := normalImage_write h
  have hwritten : acceptedImage ["data:", "https://", "http://"]
      (some (DataUrl.write contentType (Base64.btoa bytes))) = _ :=
    acceptedImage_write List.mem_cons_self (le_trans (length_write_le h) hlength)
  have haccepted : acceptedImage ["data:", "https://", "http://"] (some url) = some url := by
    obtain ⟨data, hurl, -⟩ := stageable_spec h
    rw [hurl] at hlength ⊢
    exact acceptedImage_write List.mem_cons_self (by omega)
  unfold buildImageParams
  rw [hwritten, haccepted]
  dsimp only
  -- FLUX.2 takes the bare bytes, so the prefix has to be one that is stripped from them
  by_cases hflux : isFlux2Model modelId = true
  · have hflux' : startsWith modelId "@cf/black-forest-labs/flux-2" = true := hflux
    rw [not_schnell_of_isFlux2Model hflux, if_neg Bool.false_ne_true, if_neg Bool.false_ne_true,
      if_pos hflux', if_pos hflux', forall_prop_of_true hflux, ← normalBase64_strip_iff h]
    simp [withImage, normalParams, normalField, imageFields, normalValue]
  · have hflux' : ¬startsWith modelId "@cf/black-forest-labs/flux-2" = true := hflux
    rw [if_neg hflux', if_neg hflux']
    refine iff_of_true ?_ (fun h => absurd h hflux)
    repeat' split
    all_goals simp [withImage, normalParams, normalField, imageFields, normalValue, hsame]

/-- An image rebuilt from its staged bytes gives the same video params. -/
theorem normalParams_buildVideoParams (modelId prompt : String) {url contentType : String}
    {bytes : List UInt8} (h : stageable url = some (contentType, bytes))
    (hlength : JsString.length url + 2 ≤ MAX_AUDIO_B64_CHARS) (durationSec : Option Int)
    (uploadUrl uploadUrl' : Option String) :
    normalParams (buildVideoParams modelId prompt
        (some (DataUrl.write contentType (Base64.btoa bytes))) ⟨uploadUrl, durationSec⟩) =
      normalParams (buildVideoParams modelId prompt (some url) ⟨uploadUrl', durationSec⟩) := by
  have hwritten : acceptedImage ["data:", "https://"]
      (some (DataUrl.write contentType (Base64.btoa bytes))) = _ :=
    acceptedImage_write List.mem_cons_self (le_trans (length_write_le h) hlength)
  -- both addresses are data within the limit
  have haccepted : acceptedImage ["data:", "https://"] (some url) = some url := by
    obtain ⟨data, hurl, -⟩ := stageable_spec h
    rw [hurl] at hlength ⊢
    exact acceptedImage_write List.mem_cons_self (by omega)
  unfold buildVideoParams
  rw [hwritten, haccepted]
  exact normalParams_imageToVideoParams _ _ (normalImage_write h) _ _ _

/-- An image that is not staged is the same on both paths. -/
theorem normalParams_buildVideoParams_upload (modelId prompt : String) (imageUrl : Option String)
    (durationSec : Option Int) (uploadUrl uploadUrl' : Option String) :
    normalParams (buildVideoParams modelId prompt imageUrl ⟨uploadUrl, durationSec⟩) =
      normalParams (buildVideoParams modelId prompt imageUrl ⟨uploadUrl', durationSec⟩) := by
  unfold buildVideoParams
  dsimp only
  split
  · exact normalParams_imageToVideoParams _ _ rfl _ _ _
  · exact normalParams_textToVideoParams _ _ _ _ _

/-! ### Music -/

/-- The flags that are not handed on are those the workflow would choose. -/
def MusicFlagsDefault (lyrics : Option String) (opts : BuildMusicParamsOpts) : Prop :=
  (opts.isInstrumental = none ∨ opts.isInstrumental = some lyrics.isNone) ∧
    opts.lyricsOptimizer ≠ some true

/-- A song rebuilt without its flags is the same song exactly when the flags were the defaults.
    -/
theorem normalParams_buildMusicParams (prompt : String) {lyrics : Option String}
    (hlyrics : ∀ text, lyrics = some text → JsString.trim text ≠ "") (opts : BuildMusicParamsOpts) :
    normalParams (buildMusicParams prompt lyrics ⟨none, none⟩) =
      normalParams (buildMusicParams prompt lyrics opts) ↔ MusicFlagsDefault lyrics opts := by
  obtain ⟨isInstrumental, lyricsOptimizer⟩ := opts
  have hhas : ((lyrics.map JsString.trim).getD "" != "") = lyrics.isSome := by
    cases lyrics with
    | none => rfl
    | some text => simpa using hlyrics text rfl
  unfold buildMusicParams MusicFlagsDefault
  simp only [hhas]
  -- each flag is absent, on or off
  rcases lyrics with _ | text <;> rcases isInstrumental with _ | _ | _ <;>
    rcases lyricsOptimizer with _ | _ | _ <;> simp [normalParams, normalField, imageFields]

/-! ## Handing over -/

/-- The workflow runs where its door runs, and MEDIA gives back what was put. -/
structure SameDeployment (world : NonChatWorld) (run : LongRunWorld) (effects : List NonChatEffect) :
    Prop where
  media : run.hasMedia = world.hasMedia
  secret : run.hasSecret = world.hasSecret
  stored : ∀ key contentType bytes, .put key contentType bytes ∈ effects →
    run.media key = some (some contentType, bytes)

/-- An image is staged only from a url that can be, and only with a media bucket. -/
theorem stagedImage_spec {world : NonChatWorld} {handed : NonChatGateOk.LongRunArgs}
    {image : String × List UInt8} (h : stagedImage world handed = some image) :
    world.hasMedia = true ∧ ∃ url, handed.imageUrl = some url ∧ stageable url = some image := by
  unfold stagedImage at h
  split at h
  next hkind =>
    obtain ⟨url, hurl, hstage⟩ := Option.bind_eq_some_iff.mp h
    exact ⟨hkind.2, url, (Option.filter_eq_some_iff.mp hurl).1, hstage⟩
  next => cases h

/-- With MEDIA, an image that is not staged is not one that could be. -/
theorem stageable_of_not_staged {world : NonChatWorld} {handed : NonChatGateOk.LongRunArgs}
    (h : stagedImage world handed = none) (hkind : handed.kind = .video ∨ handed.kind = .image)
    (hmedia : world.hasMedia = true) {url : String} (hurl : handed.imageUrl = some url) :
    stageable url = none := by
  unfold stagedImage at h
  rw [if_pos ⟨hkind, hmedia⟩, hurl] at h
  by_contra hstage
  obtain ⟨image, himage⟩ := Option.ne_none_iff_exists'.mp hstage
  have himage' : stageable url = some (image.1, image.2) := himage
  obtain ⟨data, hwrite, -⟩ := stageable_spec himage'
  have hprefix : startsWith url "data:" = true := hwrite ▸ startsWith_write _ _
  simp [Option.filter, hprefix, himage] at h

variable {gate : NonChatGateOk} {world : NonChatWorld} {run : LongRunWorld} {http : NonChatHttp}
  {handed : NonChatGateOk.LongRunArgs} {effects : List NonChatEffect}

/-- A staged image comes back as the canonical data URL; any other goes in the payload. -/
theorem referenceImage_longRunParams (hsame : SameDeployment world run effects)
    (hputs : ∀ image, stagedImage world handed = some image →
      .put gate.stagedKey image.1 image.2 ∈ effects) :
    run.referenceImage (gate.longRunParams world http handed) =
      .ok (match stagedImage world handed with
        | some image => some (DataUrl.write image.1 (Base64.btoa image.2))
        | none => handed.imageUrl) := by
  unfold LongRunWorld.referenceImage NonChatGateOk.longRunParams
  cases hstaged : stagedImage world handed with
  | none => rfl
  | some image =>
    dsimp only [Option.map_some]
    rw [hsame.media, (stagedImage_spec hstaged).1, if_pos rfl,
      hsame.stored _ _ _ (hputs image hstaged)]
    rfl

/-- The params of a run are those of its kind, over the image and the upload url it finds. -/
theorem invokeParams_eq {p : PlaneLongRunParams} {image uploadUrl : Option String}
    (himage : run.referenceImage p = .ok image) (hupload : run.uploadFor p = .ok uploadUrl) :
    run.invokeParams p = .ok (match p.kind with
      | .music => buildMusicParams p.prompt p.lyrics ⟨none, none⟩
      | .speech => buildTtsParams p.modelId p.prompt p.voice
      | .image => buildImageParams p.modelId p.prompt image
      | .video => buildVideoParams p.modelId p.prompt image ⟨uploadUrl, p.durationSec⟩) := by
  unfold LongRunWorld.invokeParams
  rw [himage, hupload]
  rfl

/-- What the payload keeps of a request: no flag of a song that the workflow would choose
    otherwise, and no FLUX.2 image whose data URL the door cannot strip. -/
def NonChatDoor.Kept (door : NonChatDoor) (gate : NonChatGateOk) (world : NonChatWorld)
    (http : NonChatHttp) : Prop :=
  match door with
  | .musicGenerations => MusicFlagsDefault (requireString http.raw "lyrics") (musicOpts http)
  | .imageGenerations => isFlux2Model gate.model.id = true → world.hasMedia = true →
      ∀ url, imageField http = some url → (stageable url).isSome = true →
        (anyDataUrl.exec url).isSome = true
  | .audioSpeech | .audioTranscriptions | .videoGenerations => True

/-! ## Doors -/

/-- The image of a request fits the params with its padding. -/
theorem length_imageField (hbody : http.raw.leastLength ≤ NONCHAT_MAX_BODY) {url : String}
    (hurl : imageField http = some url) : JsString.length url + 2 ≤ MAX_AUDIO_B64_CHARS := by
  have hcap : MAX_AUDIO_B64_CHARS = NONCHAT_MAX_BODY := rfl
  unfold imageField at hurl
  -- the image stands under one of two names
  cases hfield : requireString http.raw "image" with
  | some sent =>
    rw [hfield] at hurl
    obtain rfl := Option.some.inj hurl
    have := length_requireString hfield
    omega
  | none =>
    rw [hfield] at hurl
    have := length_requireString (show requireString http.raw "image_url" = some url from hurl)
    omega

/-- Only a video needs an upload url. -/
theorem uploadFor_of_not_video {p : PlaneLongRunParams} (h : p.kind ≠ .video) :
    run.uploadFor p = .ok none := by
  have huploads : LongRunWorld.uploads p = false := by
    unfold LongRunWorld.uploads
    rw [decide_eq_false h, Bool.false_and]
  rw [LongRunWorld.uploadFor, huploads]
  rfl

/-- The job bills the units it was handed. -/
theorem units_longRunParams (h : 1 ≤ handed.billableUnits) :
    (gate.longRunParams world http handed).units = handed.billableUnits :=
  max_eq_right h

/-- The image door: the job's params are the request's exactly when the door keeps them. -/
theorem image_params (hbody : http.raw.leastLength ≤ NONCHAT_MAX_BODY) (prompt : String)
    (hsame : SameDeployment world run effects)
    (hhanded : handed = ⟨.image, prompt, none, imageField http, none, 1, none⟩)
    (hputs : ∀ image, stagedImage world handed = some image →
      .put gate.stagedKey image.1 image.2 ∈ effects) :
    ∃ rebuilt, run.invokeParams (gate.longRunParams world http handed) = .ok rebuilt ∧
      (normalParams rebuilt = normalParams (buildImageParams gate.model.id prompt (imageField http)) ↔
        NonChatDoor.imageGenerations.Kept gate world http) := by
  have hnotVideo : (gate.longRunParams world http handed).kind ≠ .video := by
    rw [hhanded]
    exact PlaneLongRunKind.noConfusion
  have hrebuilt := invokeParams_eq (referenceImage_longRunParams hsame hputs)
    (uploadFor_of_not_video hnotVideo)
  refine ⟨_, hrebuilt, ?_⟩
  subst hhanded
  dsimp only [NonChatGateOk.longRunParams]
  cases hstaged : stagedImage world ⟨.image, prompt, none, imageField http, none, 1, none⟩ with
  | none =>
    -- the same address on both paths
    refine iff_of_true rfl ?_
    intro _ hmedia url hurl hstageable
    rw [stageable_of_not_staged hstaged (.inr rfl) hmedia hurl] at hstageable
    cases hstageable
  | some image =>
    obtain ⟨hmedia, url, hurl, hstage⟩ := stagedImage_spec hstaged
    dsimp only at hurl ⊢
    rw [hurl, normalParams_buildImageParams _ _ hstage (length_imageField hbody hurl)]
    constructor
    · intro h hflux _ other hother _
      obtain rfl := Option.some.inj (hurl.symm.trans hother)
      exact h hflux
    · intro h hflux
      exact h hflux hmedia url hurl (by rw [hstage]; rfl)

/-- The video door: the job's params are the request's, with or without an upload url. -/
theorem video_params (hbody : http.raw.leastLength ≤ NONCHAT_MAX_BODY) (prompt : String)
    {durationSec : Option Int} (hsame : SameDeployment world run effects)
    (hhanded : handed = ⟨.video, prompt, none, imageField http, none, 1, durationSec⟩)
    (hputs : ∀ image, stagedImage world handed = some image →
      .put gate.stagedKey image.1 image.2 ∈ effects)
    (hupload : gate.needsUpload = true → world.hasMedia = true ∧ world.hasSecret = true)
    (uploadUrl : Option String) :
    ∃ rebuilt, run.invokeParams (gate.longRunParams world http handed) = .ok rebuilt ∧
      normalParams rebuilt = normalParams (buildVideoParams gate.model.id prompt (imageField http)
        ⟨uploadUrl, durationSec⟩) := by
  subst hhanded
  have huploadFor : ∃ address, run.uploadFor (gate.longRunParams world http
      ⟨.video, prompt, none, imageField http, none, 1, durationSec⟩) = .ok address := by
    unfold LongRunWorld.uploadFor
    split
    next huploads =>
      -- what the door has checked before its own call
      obtain ⟨hmedia, hsecret⟩ := hupload huploads
      rw [hsame.media, hsame.secret, hmedia, hsecret]
      exact ⟨_, rfl⟩
    next => exact ⟨_, rfl⟩
  obtain ⟨address, haddress⟩ := huploadFor
  refine ⟨_, invokeParams_eq (referenceImage_longRunParams hsame hputs) haddress, ?_⟩
  dsimp only [NonChatGateOk.longRunParams]
  cases hstaged : stagedImage world ⟨.video, prompt, none, imageField http, none, 1, durationSec⟩ with
  -- the address of the upload is minted anew, and is no part of the normal form
  | none => exact normalParams_buildVideoParams_upload _ _ _ _ _ _
  | some image =>
    obtain ⟨-, url, hurl, hstage⟩ := stagedImage_spec hstaged
    dsimp only at hurl ⊢
    rw [hurl]
    exact normalParams_buildVideoParams _ _ hstage (length_imageField hbody hurl) _ _ _

/-- What a job without an image rebuilds. -/
theorem plain_params (himage : handed.imageUrl = none) (hkind : handed.kind ≠ .video) :
    run.invokeParams (gate.longRunParams world http handed) = .ok (match handed.kind with
      | .music => buildMusicParams handed.prompt handed.lyrics ⟨none, none⟩
      | .speech => buildTtsParams gate.model.id handed.prompt handed.voice
      | .image => buildImageParams gate.model.id handed.prompt none
      | .video => buildVideoParams gate.model.id handed.prompt none ⟨none, handed.durationSec⟩) := by
  have hstaged : stagedImage world handed = none := by
    unfold stagedImage
    rw [himage]
    split <;> rfl
  -- no image was handed over, so none is read back
  have hreference : run.referenceImage (gate.longRunParams world http handed) = .ok none := by
    unfold LongRunWorld.referenceImage NonChatGateOk.longRunParams
    rw [hstaged, himage]
    rfl
  exact invokeParams_eq hreference (uploadFor_of_not_video hkind)

/-- The workflow of a job calls its model with the params its door sends in place, for the
    same units, exactly when the payload keeps the request. -/
theorem async_params (door : NonChatDoor) (gate : NonChatGateOk) (world : NonChatWorld)
    (run : LongRunWorld) (http : NonChatHttp) (p : PlaneLongRunParams)
    (hbody : http.raw.leastLength ≤ NONCHAT_MAX_BODY)
    (hstart : .startLongRun p ∈ (door.handle gate world http).effects)
    (hsame : SameDeployment world run (door.handle gate world http).effects)
    (hupload : door = .videoGenerations → gate.needsUpload = true →
      world.hasMedia = true ∧ world.hasSecret = true) :
    (∃ sent rebuilt, door.syncParams gate world.uploadUrl http = some sent ∧
      run.invokeParams p = .ok rebuilt ∧ normalParams rebuilt = normalParams sent ∧
      p.units = door.units gate http) ↔ door.Kept gate world http := by
  -- the job's payload is the one its door handed over, its image staged before it
  obtain ⟨handed, hhanded, rfl, hputs⟩ := NonChatDoor.started hstart
  cases door with
  | imageGenerations =>
    obtain ⟨prompt, hprompt, rfl⟩ := Option.map_eq_some_iff.mp hhanded
    obtain ⟨rebuilt, hrebuilt, hiff⟩ := image_params hbody prompt hsame rfl hputs
    have hsent : NonChatDoor.imageGenerations.syncParams gate world.uploadUrl http =
        some (buildImageParams gate.model.id prompt (imageField http)) := by
      rw [NonChatDoor.syncParams, hprompt, Option.map_some]
    rw [← hiff]
    constructor
    · rintro ⟨sent, other, hsent', hother, hnormal, -⟩
      obtain rfl := Option.some.inj (hsent.symm.trans hsent')
      obtain rfl := Except.ok.inj (hrebuilt.symm.trans hother)
      exact hnormal
    · exact fun hnormal => ⟨_, rebuilt, hsent, hrebuilt, hnormal, units_longRunParams le_rfl⟩
  -- speech and video lose nothing on the way
  | audioSpeech =>
    obtain ⟨input, hinput, rfl⟩ := Option.map_eq_some_iff.mp hhanded
    refine iff_of_true ⟨_, _, ?_, plain_params rfl PlaneLongRunKind.noConfusion, rfl, ?_⟩ trivial
    · rw [NonChatDoor.syncParams, hinput]
      rfl
    · have hinput' : (requireString http.raw "input" <|> requireString http.raw "text") =
          some input := hinput
      rw [NonChatDoor.units, hinput', Option.getD_some]
      exact units_longRunParams (gate.one_le_speechUnits input)
  -- a transcription is never a job
  | audioTranscriptions => cases hhanded
  | videoGenerations =>
    obtain ⟨prompt, hprompt, rfl⟩ := Option.map_eq_some_iff.mp hhanded
    obtain ⟨rebuilt, hrebuilt, hnormal⟩ := video_params hbody prompt hsame rfl hputs
      (hupload rfl) (if gate.needsUpload then some world.uploadUrl else none)
    refine iff_of_true ⟨_, rebuilt, ?_, hrebuilt, hnormal, units_longRunParams le_rfl⟩ trivial
    rw [NonChatDoor.syncParams, hprompt, Option.map_some]
  | musicGenerations =>
    obtain ⟨prompt, hprompt, rfl⟩ := Option.map_eq_some_iff.mp hhanded
    have hlyrics : ∀ text, requireString http.raw "lyrics" = some text → JsString.trim text ≠ "" :=
      fun text htext => trim_requireString htext
    have hrebuilt : run.invokeParams (gate.longRunParams world http
        ⟨.music, prompt, requireString http.raw "lyrics", none, none, 1, none⟩) = _ :=
      plain_params rfl PlaneLongRunKind.noConfusion
    have hsent : NonChatDoor.musicGenerations.syncParams gate world.uploadUrl http =
        some (buildMusicParams prompt (requireString http.raw "lyrics") (musicOpts http)) := by
      rw [NonChatDoor.syncParams, hprompt, Option.map_some]
    rw [NonChatDoor.Kept, ← normalParams_buildMusicParams prompt hlyrics]
    constructor
    · rintro ⟨sent, other, hsent', hother, hnormal, -⟩
      obtain rfl := Option.some.inj (hsent.symm.trans hsent')
      obtain rfl := Except.ok.inj (hrebuilt.symm.trans hother)
      exact hnormal
    · exact fun hnormal => ⟨_, _, hsent, hrebuilt, hnormal, units_longRunParams le_rfl⟩

/-! ## A sketch and a song -/

/-- A deployment with MEDIA and the workflow. -/
def longrunDoor : NonChatWorld :=
  { answering .null with hasMedia := true, hasSecret := true, longrun := some fun _ => .ok () }

/-- What the workflow finds there once the sketch is staged. -/
def longrunStep : LongRunWorld where
  hasGateway := true
  token := "a-token-of-some-length"
  hasMedia := true
  media _ := some (some "image/png", [104, 105])
  uploadUrl := ""
  downloadUrl := ""
  run _ := .timeout 60000
  ready := false
  atobMessage := ""
  put _ := .ok ()
  mediaUrl := ""
  rehost _ := none

/-- A pro account with a premium image model. -/
def sketchGate : NonChatGateOk :=
  { speechGate with model := ⟨"openai/gpt-image-2", "openai/gpt-image-2", false, .chat, .image,
      .unifiedBilling, .premium, none, some ⟨55000, .request⟩⟩ }

/-- An edit of a reference image, its padding left out. -/
def sketchHttp : NonChatHttp :=
  ⟨.obj [("prompt", .str "Ink this"), ("image", .str "data:image/png;base64,aGk")], "", ""⟩

/-- A sketch request handed over, with a reference image. -/
def sketchJob : PlaneLongRunParams := sketchGate.longRunParams longrunDoor sketchHttp
  ⟨.image, "Ink this", none, some "data:image/png;base64,aGk", none, 1, none⟩

/-- The sample sketch is called with the same params and units on both paths. -/
theorem async_params_sketch : ∃ sent rebuilt,
    NonChatDoor.imageGenerations.syncParams sketchGate "" sketchHttp = some sent ∧
    longrunStep.invokeParams sketchJob = .ok rebuilt ∧ normalParams rebuilt = normalParams sent ∧
    sketchJob.units = NonChatDoor.imageGenerations.units sketchGate sketchHttp := by
  have heffects : (NonChatDoor.imageGenerations.handle sketchGate longrunDoor sketchHttp).effects =
      [.createJob "job-1", .put sketchGate.stagedKey "image/png" [104, 105],
        .startLongRun sketchJob] := rfl
  refine (async_params .imageGenerations sketchGate longrunDoor longrunStep sketchHttp sketchJob
    (by decide +kernel) ?_ ⟨rfl, by decide +kernel, ?_⟩ (fun h => by cases h)).mpr ?_
  · rw [heffects]
    simp
  -- the only object stored is the reference image
  · intro key contentType bytes hput
    rw [heffects] at hput
    simp only [List.mem_cons, reduceCtorEq, NonChatEffect.put.injEq, List.not_mem_nil, or_false,
      false_or] at hput
    obtain ⟨-, rfl, rfl⟩ := hput
    rfl
  · intro hflux
    revert hflux
    decide +kernel

/-- A song that is to be sung, its words left to the model. -/
def songHttp : NonChatHttp :=
  ⟨.obj [("prompt", .str "Rain on a tin roof"), ("is_instrumental", .bool false),
    ("async", .bool true)], "", ""⟩

/-- A song handed over with its lyrics missing. -/
def songJob : PlaneLongRunParams := songGate.longRunParams longrunDoor songHttp
  ⟨.music, "Rain on a tin roof", none, none, none, 1, none⟩

/-- It is played without words when it is asked for as a job. -/
theorem song_flags_dropped :
    .startLongRun songJob ∈ (NonChatDoor.musicGenerations.handle songGate longrunDoor songHttp).effects ∧
    ∃ sent rebuilt, NonChatDoor.musicGenerations.syncParams songGate "" songHttp = some sent ∧
      longrunStep.invokeParams songJob = .ok rebuilt ∧ normalParams rebuilt ≠ normalParams sent ∧
      sent.field "is_instrumental" = some (.bool false) ∧
      rebuilt.field "is_instrumental" = some (.bool true) := by
  -- the request is handed to a job
  have heffects : (NonChatDoor.musicGenerations.handle songGate longrunDoor songHttp).effects =
      [.createJob "job-1", .startLongRun songJob] := rfl
  constructor
  · rw [heffects]
    simp
  · refine ⟨buildMusicParams "Rain on a tin roof" none ⟨some false, none⟩,
      buildMusicParams "Rain on a tin roof" none ⟨none, none⟩, rfl, rfl, ?_, rfl, rfl⟩
    rw [Ne, normalParams_buildMusicParams _ (fun _ h => by cases h)]
    rintro ⟨hflag, -⟩
    cases hflag with
    | inl h => cases h
    | inr h => cases h

end ControlPlane
