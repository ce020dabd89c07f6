import ControlPlane.Spec.AlternatingTurns
import ControlPlane.Spec.ChatBody

/-!
# What of a chat request reaches the model

A body is read the way its provider reads it: turns with texts and images, system texts,
sampling parameters. OpenAI-shaped bodies carry everything the validator accepts. The
block encoders send an image only when it is inline, and Responses bodies hold neither
images nor sampling parameters.

## Key results

- `carries_upstreamBody` / `carries_blocks` / `carries_responsesBody`: each encoder
- `chat_carried`: a body carries its request exactly when its shape supports it
-/

namespace ControlPlane

open JsString (startsWith)

/-! ## Reading a body -/

/-- An image, as a body refers to it. -/
inductive ImageRef where
  | url (address : String)
  | inline (mediaType data : String)
deriving Repr, DecidableEq

/-- The image of an address: inline where it is a data URL of an image. -/
def ImageRef.ofUrl (url : String) : ImageRef :=
  match inlineImage url with
  | some (mediaType, data) => .inline mediaType data
  | none => .url url

namespace Json

/-- The items of a read that is an array. -/
def items : Option Json → List Json
  | some (.arr items) => items
  | _ => []

/-- The turns of a body, under whichever name its provider reads. -/
def turns (body : Json) : List Json :=
  items (body.field "messages") ++ items (body.field "contents") ++ items (body.field "input")

/-- The role a turn of a body names, Gemini's `model` read as the assistant. -/
def role (turn : Json) : Option ChatRole :=
  match turn.strField "role" with
  | some "model" => some .assistant
  | some name => parseRole name
  | none => none

/-- The blocks of a turn, under `content` or under Gemini's `parts`. -/
def parts (turn : Json) : List Json := items (turn.field "content") ++ items (turn.field "parts")

/-- The texts of a turn: a plain `content`, and the text of each block. -/
def texts (turn : Json) : List String :=
  (turn.strField "content").toList ++ turn.parts.filterMap (·.strField "text")

/-- The image a holder of base64 data has. -/
def inlineRef (holder : Option Json) (mediaType : String) : Option ImageRef :=
  (holder.bind (·.strField mediaType)).bind fun mediaType =>
    (holder.bind (·.strField "data")).map fun data => .inline mediaType data

/-- The image a block gives, in any of the three spellings. -/
def image (part : Json) : Option ImageRef :=
  (((part.field "image_url").bind (·.strField "url")).map ImageRef.ofUrl).or
    ((inlineRef (part.field "source") "media_type").or
      (inlineRef (part.field "inlineData") "mimeType"))

/-- The images of a turn, in their order. -/
def images (turn : Json) : List ImageRef := turn.parts.filterMap image

/-- The system texts of a body. -/
def systemTexts (body : Json) : List String :=
  (body.turns.filter (·.role = some .system)).flatMap texts ++
    ((body.strField "system").toList ++ (body.strField "instructions").toList ++
      ((body.field "systemInstruction").map texts).getD [])

/-- A sampling parameter, of the body or of its `generationConfig`. -/
def sampling (body : Json) (name geminiName : String) : Option Rat :=
  match (body.field name).or ((body.field "generationConfig").bind (·.field geminiName)) with
  | some (.num value) => some value
  | _ => none

end Json

/-- The turns that may not be dropped: all of them, or those after the leading assistant
    turns where the provider wants alternation. -/
def BodyShape.keptTurns (shape : BodyShape) (messages : List ChatTurn) : List ChatTurn :=
  match shape with
  | .anthropic | .gemini => (dialogue messages).dropWhile (·.role = .assistant)
  | .openAI | .responses | .multiAgent => dialogue messages

/-- A turn of a body that carries a turn of the request. -/
structure CarriesTurn (sent : Json) (turn : ChatTurn) : Prop where
  role : sent.role = some turn.role
  images : ∀ url ∈ turn.images, ImageRef.ofUrl url ∈ sent.images
  text : JsString.trim turn.content ≠ "" → ∃ text ∈ sent.texts, turn.content.toList <:+: text.toList

/-- A body carries everything of a request. -/
structure Carries (shape : BodyShape) (req : ValidChatRequest) (body : Json) : Prop where
  turns : ∀ turn ∈ shape.keptTurns req.messages, ∃ sent ∈ body.turns, CarriesTurn sent turn
  system : ∀ turn ∈ req.messages, turn.role = .system → JsString.trim turn.content ≠ "" →
    ∃ text ∈ body.systemTexts, turn.content.toList <:+: text.toList
  temperature : ∀ value, req.temperature = some value →
    body.sampling "temperature" "temperature" = some value
  topP : ∀ value, req.topP = some value → body.sampling "top_p" "topP" = some value

/-- What a shape has no place for is not in the request. -/
def BodyShape.Supports (shape : BodyShape) (req : ValidChatRequest) : Prop :=
  match shape with
  | .openAI => True
  | .anthropic | .gemini => ∀ turn ∈ req.messages, ∀ url ∈ turn.images, isHttpImage url = false
  | .responses | .multiAgent =>
    (∀ turn ∈ req.messages, turn.images = []) ∧ req.temperature = none ∧ req.topP = none

/-! ## System texts -/

/-- The empty text trims to itself. -/
theorem trim_empty : JsString.trim "" = "" := rfl

/-- A text that trims to something is not empty. -/
theorem ne_empty_of_trim {text : String} (h : JsString.trim text ≠ "") : text ≠ "" := by
  rintro rfl
  exact h trim_empty

/-- A part of a joined text occurs in it. -/
theorem infix_intercalate {sep part : String} {parts : List String} (h : part ∈ parts) :
    part.toList <:+: (String.intercalate sep parts).toList := by
  induction parts with
  | nil => cases h
  | cons first rest ih =>
    cases rest with
    | nil =>
      obtain rfl := List.mem_singleton.mp h
      have hone : String.intercalate sep [part] = part := String.intercalate_singleton
      exact hone.symm ▸ List.infix_refl _
    -- the part is the first, or lies behind the first separator
    | cons second rest =>
      rw [String.intercalate_cons_cons, String.append_assoc, String.toList_append]
      cases h with
      | head => exact (List.prefix_append _ _).isInfix
      | tail _ h =>
        rw [String.toList_append]
        exact (ih h).trans ((List.suffix_append _ _).trans (List.suffix_append _ _)).isInfix

/-- A system turn that is not blank is in the joined text. -/
theorem joinedSystem_infix {messages : List ChatTurn} {turn : ChatTurn} (h : turn ∈ messages)
    (hrole : turn.role = .system) (htext : JsString.trim turn.content ≠ "") :
    ∃ text, joinedSystem messages = some text ∧ turn.content.toList <:+: text.toList := by
  have hpart : turn.content ∈ systemParts messages :=
    List.mem_filterMap.mpr ⟨turn, h, if_pos ⟨hrole, htext⟩⟩
  refine ⟨_, if_neg ?_, infix_intercalate hpart⟩
  intro hempty
  rw [List.isEmpty_iff.mp hempty] at hpart
  cases hpart

/-! ## OpenAI-shaped bodies -/

/-- The OpenAI message has the turn's role. -/
theorem toOpenAIMessage_role (turn : ChatTurn) : (toOpenAIMessage turn).role = some turn.role := by
  unfold toOpenAIMessage
  cases turn.images.isEmpty <;> cases turn.role <;> rfl

/-- A turn with text has that text in its OpenAI message. -/
theorem toOpenAIMessage_text {turn : ChatTurn} (h : turn.content ≠ "") :
    turn.content ∈ (toOpenAIMessage turn).texts := by
  unfold toOpenAIMessage
  split
  next =>
    show turn.content ∈ [turn.content] ++ []
    exact List.mem_cons_self
  -- with images the text is one of the parts
  next =>
    unfold Json.texts
    apply List.mem_append_right
    apply List.mem_filterMap.mpr
    refine ⟨.obj [("type", .str "text"), ("text", .str turn.content)], ?_, rfl⟩
    show _ ∈ (turn.images.map _ ++ [_]) ++ []
    simp

/-- An image of the turn is one of its OpenAI message. -/
theorem toOpenAIMessage_image {turn : ChatTurn} {url : String} (h : url ∈ turn.images) :
    ImageRef.ofUrl url ∈ (toOpenAIMessage turn).images := by
  unfold toOpenAIMessage
  -- there are images, so the content is written as parts
  have hne : turn.images.isEmpty = false := by
    cases himages : turn.images with
    | nil =>
      rw [himages] at h
      cases h
    | cons url urls => rfl
  rw [hne, if_neg Bool.false_ne_true]
  apply List.mem_filterMap.mpr
  refine ⟨.obj [("type", .str "image_url"), ("image_url", .obj [("url", .str url)])], ?_, rfl⟩
  show _ ∈ (turn.images.map _ ++ [_]) ++ []
  rw [List.append_nil]
  exact List.mem_append_left _ (List.mem_map.mpr ⟨url, h, rfl⟩)

/-- An OpenAI message carries the whole of its turn. -/
theorem toOpenAIMessage_carries (turn : ChatTurn) : CarriesTurn (toOpenAIMessage turn) turn where
  role := toOpenAIMessage_role turn
  images := fun _ h => toOpenAIMessage_image h
  text := fun h => ⟨_, toOpenAIMessage_text (ne_empty_of_trim h), List.infix_refl _⟩

/-- A body whose turns are the messages of the request carries it. -/
theorem carries_openAI {req : ValidChatRequest} {body : Json}
    (hturns : body.turns = req.messages.map toOpenAIMessage)
    (htemperature : body.sampling "temperature" "temperature" = req.temperature)
    (htopP : body.sampling "top_p" "topP" = req.topP) : Carries .openAI req body where
  -- every turn has its message, a system turn too
  turns := by
    intro turn hmem
    refine ⟨toOpenAIMessage turn, ?_, toOpenAIMessage_carries turn⟩
    rw [hturns]
    exact List.mem_map.mpr ⟨turn, (List.mem_filter.mp hmem).1, rfl⟩
  -- the system text is the message of its own turn
  system := by
    intro turn hmem hrole htext
    refine ⟨turn.content, ?_, List.infix_refl _⟩
    unfold Json.systemTexts
    apply List.mem_append_left
    apply List.mem_flatMap.mpr
    refine ⟨toOpenAIMessage turn, ?_, toOpenAIMessage_text (ne_empty_of_trim htext)⟩
    rw [hturns]
    apply List.mem_filter.mpr
    exact ⟨List.mem_map.mpr ⟨turn, hmem, rfl⟩, by simp [toOpenAIMessage_role, hrole]⟩
  temperature := by
    intro value h
    rw [htemperature, h]
  topP := by
    intro value h
    rw [htopP, h]

/-- The hosted body has the request's sampling values under OpenAI's keys. -/
theorem sampling_upstreamBody (request : InferenceRequest) :
    (upstreamBody request).sampling "temperature" "temperature" = request.temperature ∧
    (upstreamBody request).sampling "top_p" "topP" = request.topP := by
  unfold Json.sampling upstreamBody samplingFields streamFields
  obtain h | h := outputTokenField_cases request.upstreamModel
  all_goals
    rw [h]
    cases request.temperature <;> cases request.topP <;> cases request.stream <;> exact ⟨rfl, rfl⟩

/-- The OpenAI body of the binding has the request's sampling values. -/
theorem sampling_openAIBindingBody (request : InferenceRequest) :
    (openAIBindingBody request).sampling "temperature" "temperature" = request.temperature ∧
    (openAIBindingBody request).sampling "top_p" "topP" = request.topP := by
  unfold Json.sampling openAIBindingBody samplingFields streamFields
  cases request.temperature <;> cases request.topP <;> cases request.stream <;> exact ⟨rfl, rfl⟩

/-! ## Block bodies -/

/-- An encoder of blocks keeps what a block is. -/
structure BlockEncoder (encode : TurnBlock → Json) : Prop where
  text : ∀ text, (encode (.text text)).strField "text" = some text
  noImage : ∀ text, (encode (.text text)).image = none
  image : ∀ mediaType data, (encode (.image mediaType data)).image = some (.inline mediaType data)

/-- An Anthropic block is read back as the block it was written from. -/
theorem anthropicBlock_encoder : BlockEncoder anthropicBlock :=
  ⟨fun _ => rfl, fun _ => rfl, fun _ _ => rfl⟩

/-- A Gemini part is read back as the block it was written from. -/
theorem geminiPart_encoder : BlockEncoder geminiPart :=
  ⟨fun _ => rfl, fun _ => rfl, fun _ _ => rfl⟩

/-- A turn of a body that is a turn of blocks. -/
structure Encodes (encode : TurnBlock → Json) (sent : Json) (turn : BlockTurn) : Prop where
  role : sent.role = some turn.role
  parts : sent.parts = turn.content.map encode

section Blocks

variable {encode : TurnBlock → Json} {sent : Json} {turn : BlockTurn}

/-- Only inline images are sent in blocks. -/
theorem Encodes.inline (hencode : BlockEncoder encode) (h : Encodes encode sent turn)
    {ref : ImageRef} (href : ref ∈ sent.images) : ∃ mediaType data, ref = .inline mediaType data := by
  obtain ⟨part, hpart, himage⟩ := List.mem_filterMap.mp href
  rw [h.parts] at hpart
  obtain ⟨block, -, rfl⟩ := List.mem_map.mp hpart
  -- only an image block gives an image, and it holds the bytes
  cases block with
  | text text =>
    rw [hencode.noImage] at himage
    cases himage
  | image mediaType data =>
    rw [hencode.image] at himage
    exact ⟨mediaType, data, (Option.some.inj himage).symm⟩

/-- A message whose blocks are held, and whose images are inline, is carried. -/
theorem Encodes.carries (hencode : BlockEncoder encode) (h : Encodes encode sent turn) {m : ChatTurn}
    (hrole : turn.role = m.role) (hheld : ∀ block ∈ turnBlocks m, Holds turn.content block)
    (hinline : ∀ url ∈ m.images, (inlineImage url).isSome = true) : CarriesTurn sent m where
  role := by rw [h.role, hrole]
  images := by
    intro url hurl
    obtain ⟨⟨mediaType, data⟩, himage⟩ := Option.isSome_iff_exists.mp (hinline url hurl)
    -- an inline image is a block of its turn, and blocks are kept through merging
    have hblock : TurnBlock.image mediaType data ∈ turnBlocks m :=
      List.mem_append_left _ (List.mem_filterMap.mpr ⟨url, hurl, by rw [himage]; rfl⟩)
    have href : ImageRef.ofUrl url = .inline mediaType data := by
      unfold ImageRef.ofUrl
      rw [himage]
    rw [href]
    apply List.mem_filterMap.mpr
    rw [h.parts]
    exact ⟨_, List.mem_map.mpr ⟨_, hheld _ hblock, rfl⟩, hencode.image mediaType data⟩
  text := by
    intro htext
    -- the text may have been merged into a longer one
    have hblock : TurnBlock.text m.content ∈ turnBlocks m := by
      unfold turnBlocks
      rw [if_pos (Or.inl htext), if_neg (ne_empty_of_trim htext)]
      exact List.mem_append_right _ List.mem_cons_self
    obtain ⟨longer, hmem, hinfix⟩ := hheld _ hblock
    refine ⟨longer, List.mem_append_right _ ?_, hinfix⟩
    apply List.mem_filterMap.mpr
    rw [h.parts]
    exact ⟨_, List.mem_map.mpr ⟨_, hmem, rfl⟩, hencode.text longer⟩

end Blocks

/-- Turns that are not the assistant's are kept. -/
theorem mem_dropWhile_of_not {α : Type} {p : α → Bool} {x : α} {xs : List α} (h : x ∈ xs)
    (hx : p x = false) : x ∈ xs.dropWhile p := by
  rw [← List.takeWhile_append_dropWhile (p := p) (l := xs)] at h
  cases List.mem_append.mp h with
  | inl h =>
    rw [List.mem_takeWhile_imp h] at hx
    cases hx
  | inr h => exact h

/-- A turn with an image is a user turn, and kept by every shape. -/
theorem AcceptedTurn.kept {turn : ChatTurn} (haccepted : AcceptedTurn turn) {url : String}
    (hurl : url ∈ turn.images) {messages : List ChatTurn} (hmem : turn ∈ messages)
    (shape : BodyShape) : turn ∈ shape.keptTurns messages := by
  have hrole : turn.role = .user := haccepted.role (List.ne_nil_of_mem hurl)
  have hdialogue : turn ∈ dialogue messages := List.mem_filter.mpr ⟨hmem, by simp [hrole]⟩
  have hkept := mem_dropWhile_of_not (p := fun m : ChatTurn => m.role = .assistant) hdialogue
    (by simp [hrole])
  cases shape <;> first | exact hdialogue | exact hkept

/-- An http url is carried as a url, never as inline data. -/
theorem ofUrl_http {url : String} (h : isHttpImage url = true) : ImageRef.ofUrl url = .url url := by
  unfold ImageRef.ofUrl
  rw [inlineImage_of_http h]

/-- A body of alternating block turns carries its request when no image is an address. -/
theorem carries_blocks {shape : BodyShape} (hshape : shape = .anthropic ∨ shape = .gemini)
    {req : ValidChatRequest} (haccepted : ∀ turn ∈ req.messages, AcceptedTurn turn)
    {encode : TurnBlock → Json} (hencode : BlockEncoder encode) {body : Json}
    {encodeTurn : BlockTurn → Json} (hencodes : ∀ turn, Encodes encode (encodeTurn turn) turn)
    (hturns : body.turns = (alternatingTurns req.messages).map encodeTurn)
    (hsystem : ∀ text, joinedSystem req.messages = some text → text ∈ body.systemTexts)
    (htemperature : body.sampling "temperature" "temperature" = req.temperature)
    (htopP : body.sampling "top_p" "topP" = req.topP) :
    Carries shape req body ↔ shape.Supports req := by
  have hsupports : shape.Supports req ↔
      ∀ turn ∈ req.messages, ∀ url ∈ turn.images, isHttpImage url = false := by
    rcases hshape with rfl | rfl <;> exact Iff.rfl
  have hkept : shape.keptTurns req.messages =
      (dialogue req.messages).dropWhile (·.role = .assistant) := by
    rcases hshape with rfl | rfl <;> rfl
  rw [hsupports]
  constructor
  · intro hcarries turn hmem url hurl
    by_contra hhttp
    have hhttp : isHttpImage url = true := by simpa using hhttp
    -- an address is in none of the turns that are sent
    obtain ⟨sent, hsent, hcarried⟩ :=
      hcarries.turns turn ((haccepted turn hmem).kept hurl hmem shape)
    rw [hturns] at hsent
    obtain ⟨blocks, -, rfl⟩ := List.mem_map.mp hsent
    obtain ⟨mediaType, data, href⟩ := (hencodes blocks).inline hencode (hcarried.images url hurl)
    rw [ofUrl_http hhttp] at href
    cases href
  · intro hnone
    refine ⟨?_, ?_, fun value h => htemperature.trans h, fun value h => htopP.trans h⟩
    · intro turn hmem
      rw [hkept] at hmem
      have hmessage : turn ∈ req.messages :=
        (List.mem_filter.mp ((List.dropWhile_suffix _).subset hmem)).1
      obtain ⟨blocks, hblocks, hrole, hheld⟩ := alternatingTurns_hold hmem
      -- a message is in the turn it was merged into
      refine ⟨encodeTurn blocks, ?_, (hencodes blocks).carries hencode hrole hheld ?_⟩
      · rw [hturns]
        exact List.mem_map.mpr ⟨blocks, hblocks, rfl⟩
      · intro url hurl
        cases (haccepted turn hmessage).images url hurl with
        | inl hhttp =>
          rw [hnone turn hmessage url hurl] at hhttp
          cases hhttp
        | inr hinline => exact hinline
    · intro turn hmem hrole htext
      obtain ⟨text, hjoined, hinfix⟩ := joinedSystem_infix hmem hrole htext
      exact ⟨text, hsystem text hjoined, hinfix⟩

/-- A body of block turns that is made of a request with the fields of another one. -/
theorem carries_request {shape : BodyShape} (hshape : shape = .anthropic ∨ shape = .gemini)
    {request : InferenceRequest} {req : ValidChatRequest}
    (haccepted : ∀ turn ∈ req.messages, AcceptedTurn turn)
    {encode : TurnBlock → Json} (hencode : BlockEncoder encode) {body : Json}
    {encodeTurn : BlockTurn → Json} (hencodes : ∀ turn, Encodes encode (encodeTurn turn) turn)
    (hturns : body.turns = (alternatingTurns request.messages).map encodeTurn)
    (hsystem : ∀ {text}, joinedSystem request.messages = some text → text ∈ body.systemTexts)
    (hsampling : body.sampling "temperature" "temperature" = request.temperature ∧
      body.sampling "top_p" "topP" = request.topP)
    (hmessages : request.messages = req.messages)
    (htemperature : request.temperature = req.temperature) (htopP : request.topP = req.topP) :
    Carries shape req body ↔ shape.Supports req := by
  apply carries_blocks hshape haccepted hencode hencodes
  · rw [hturns, hmessages]
  · rw [← hmessages]
    exact fun text => hsystem
  · rw [hsampling.1, htemperature]
  · rw [hsampling.2, htopP]

/-! ### Anthropic -/

/-- A turn of an Anthropic body. -/
def anthropicTurn (turn : BlockTurn) : Json :=
  .obj [("role", .str (roleName turn.role)), ("content", .arr (turn.content.map anthropicBlock))]

/-- An Anthropic message has the role and the blocks of its turn. -/
theorem anthropicTurn_encodes (turn : BlockTurn) : Encodes anthropicBlock (anthropicTurn turn) turn where
  role := by
    cases h : turn.role <;> simp [anthropicTurn, Json.role, Json.strField, roleName, h, parseRole]
  parts := List.append_nil _

/-- The messages of the Anthropic body are the alternating turns of the request. -/
theorem turns_anthropicBindingBody (request : InferenceRequest) :
    (anthropicBindingBody request).turns = (alternatingTurns request.messages).map anthropicTurn := by
  unfold Json.turns anthropicBindingBody samplingFields
  simp [Json.items, anthropicTurn]

/-- The joined system text stands in the Anthropic body. -/
theorem systemTexts_anthropicBindingBody {request : InferenceRequest} {text : String}
    (h : joinedSystem request.messages = some text) :
    text ∈ (anthropicBindingBody request).systemTexts := by
  unfold Json.systemTexts
  apply List.mem_append_right
  apply List.mem_append_left
  apply List.mem_append_left
  unfold anthropicBindingBody
  simp [Json.strField, h]

/-- The Anthropic body has the request's sampling values. -/
theorem sampling_anthropicBindingBody (request : InferenceRequest) :
    (anthropicBindingBody request).sampling "temperature" "temperature" = request.temperature ∧
    (anthropicBindingBody request).sampling "top_p" "topP" = request.topP := by
  unfold Json.sampling anthropicBindingBody samplingFields
  cases request.temperature <;> cases request.topP <;> simp

/-- The Anthropic body carries a request exactly when its shape has room for it. -/
theorem carries_anthropicBindingBody {request : InferenceRequest} {req : ValidChatRequest}
    (haccepted : ∀ turn ∈ req.messages, AcceptedTurn turn) (hmessages : request.messages = req.messages)
    (htemperature : request.temperature = req.temperature) (htopP : request.topP = req.topP) :
    Carries .anthropic req (anthropicBindingBody request) ↔ BodyShape.anthropic.Supports req :=
  carries_request (.inl rfl) haccepted anthropicBlock_encoder anthropicTurn_encodes
    (turns_anthropicBindingBody request) systemTexts_anthropicBindingBody
    (sampling_anthropicBindingBody request) hmessages htemperature htopP

/-! ### Gemini -/

/-- A turn of a Gemini body. -/
def geminiTurn (turn : BlockTurn) : Json :=
  .obj [("role", .str (geminiRole turn.role)), ("parts", .arr (turn.content.map geminiPart))]

/-- A Gemini content has the role and the blocks of its turn. -/
theorem geminiTurn_encodes (turn : BlockTurn) : Encodes geminiPart (geminiTurn turn) turn where
  role := by
    cases h : turn.role <;>
      simp [geminiTurn, Json.role, Json.strField, geminiRole, roleName, h, parseRole]
  parts := rfl

/-- The contents of the Gemini body are the alternating turns of the request. -/
theorem turns_geminiBindingBody (request : InferenceRequest) :
    (geminiBindingBody request).turns = (alternatingTurns request.messages).map geminiTurn := by
  unfold Json.turns geminiBindingBody
  simp [Json.items, geminiTurn]

/-- The joined system text stands in the Gemini body. -/
theorem systemTexts_geminiBindingBody {request : InferenceRequest} {text : String}
    (h : joinedSystem request.messages = some text) :
    text ∈ (geminiBindingBody request).systemTexts := by
  unfold Json.systemTexts
  apply List.mem_append_right
  apply List.mem_append_right
  unfold geminiBindingBody
  simp [h, Json.texts, Json.parts, Json.items, Json.strField]

/-- The Gemini body has the request's sampling values, under `generationConfig`. -/
theorem sampling_geminiBindingBody (request : InferenceRequest) :
    (geminiBindingBody request).sampling "temperature" "temperature" = request.temperature ∧
    (geminiBindingBody request).sampling "top_p" "topP" = request.topP := by
  unfold Json.sampling geminiBindingBody samplingFields
  cases request.temperature <;> cases request.topP <;> simp

/-- The Gemini body carries a request exactly when its shape has room for it. -/
theorem carries_geminiBindingBody {request : InferenceRequest} {req : ValidChatRequest}
    (haccepted : ∀ turn ∈ req.messages, AcceptedTurn turn) (hmessages : request.messages = req.messages)
    (htemperature : request.temperature = req.temperature) (htopP : request.topP = req.topP) :
    Carries .gemini req (geminiBindingBody request) ↔ BodyShape.gemini.Supports req :=
  carries_request (.inr rfl) haccepted geminiPart_encoder geminiTurn_encodes
    (turns_geminiBindingBody request) systemTexts_geminiBindingBody
    (sampling_geminiBindingBody request) hmessages htemperature htopP

/-! ## Responses bodies -/

/-- An item of the input of a Responses body. -/
def responsesItem (m : ChatTurn) : Json :=
  .obj [("role", .str (roleName m.role)), ("content", .str m.content)]

/-- The input of the responses body is the request's dialogue, item by item. -/
theorem turns_responsesBody (request : InferenceRequest) :
    (responsesBody request).turns = (dialogue request.messages).map responsesItem := by
  unfold Json.turns responsesBody
  cases isMultiAgentModel request.upstreamModel <;> simp [Json.items, responsesItem]

/-- The joined system text stands in the responses body as its instructions. -/
theorem systemTexts_responsesBody {request : InferenceRequest} {text : String}
    (h : joinedSystem request.messages = some text) :
    text ∈ (responsesBody request).systemTexts := by
  unfold Json.systemTexts
  apply List.mem_append_right
  apply List.mem_append_left
  apply List.mem_append_right
  unfold responsesBody
  cases isMultiAgentModel request.upstreamModel <;> simp [Json.strField, h]

/-- A Responses body holds no sampling parameter. -/
theorem sampling_responsesBody (request : InferenceRequest) :
    (responsesBody request).sampling "temperature" "temperature" = none ∧
    (responsesBody request).sampling "top_p" "topP" = none := by
  unfold Json.sampling responsesBody
  cases isMultiAgentModel request.upstreamModel <;> simp

/-- A responses item has the role of its turn. -/
theorem responsesItem_role (m : ChatTurn) : (responsesItem m).role = some m.role := by
  cases h : m.role <;> simp [responsesItem, Json.role, Json.strField, roleName, h, parseRole]

/-- A Responses body carries a request without images and sampling parameters. -/
theorem carries_responsesBody {shape : BodyShape} (hshape : shape = .responses ∨ shape = .multiAgent)
    {request : InferenceRequest} {req : ValidChatRequest}
    (haccepted : ∀ turn ∈ req.messages, AcceptedTurn turn)
    (hmessages : request.messages = req.messages) :
    Carries shape req (responsesBody request) ↔ shape.Supports req := by
  have hsupports : shape.Supports req ↔
      (∀ turn ∈ req.messages, turn.images = []) ∧ req.temperature = none ∧ req.topP = none := by
    rcases hshape with rfl | rfl <;> exact Iff.rfl
  have hkept : shape.keptTurns req.messages = dialogue req.messages := by
    rcases hshape with rfl | rfl <;> rfl
  obtain ⟨htemperature, htopP⟩ := sampling_responsesBody request
  have hturns := turns_responsesBody request
  rw [hmessages] at hturns
  rw [hsupports]
  constructor
  · intro hcarries
    refine ⟨?_, ?_, ?_⟩
    · intro turn hmem
      by_contra hne
      obtain ⟨url, hurl⟩ := List.exists_mem_of_ne_nil _ hne
      -- the items of a Responses body have a text only
      obtain ⟨sent, hsent, hcarried⟩ :=
        hcarries.turns turn ((haccepted turn hmem).kept hurl hmem shape)
      rw [hturns] at hsent
      obtain ⟨m, -, rfl⟩ := List.mem_map.mp hsent
      cases hcarried.images url hurl
    · by_contra hne
      obtain ⟨value, hvalue⟩ := Option.ne_none_iff_exists'.mp hne
      have h := hcarries.temperature value hvalue
      rw [htemperature] at h
      cases h
    · by_contra hne
      obtain ⟨value, hvalue⟩ := Option.ne_none_iff_exists'.mp hne
      have h := hcarries.topP value hvalue
      rw [htopP] at h
      cases h
  · rintro ⟨himages, hnoTemperature, hnoTopP⟩
    -- turns, system texts, and the two parameters nothing has set
    refine ⟨?_, ?_, ?_, ?_⟩
    · intro turn hmem
      rw [hkept] at hmem
      have hmessage := (List.mem_filter.mp hmem).1
      refine ⟨responsesItem turn, ?_, responsesItem_role turn, ?_, ?_⟩
      · rw [hturns]
        exact List.mem_map.mpr ⟨turn, hmem, rfl⟩
      · intro url hurl
        rw [himages turn hmessage] at hurl
        cases hurl
      · exact fun _ => ⟨turn.content, List.mem_cons_self, List.infix_refl _⟩
    · intro turn hmem hrole htext
      rw [← hmessages] at hmem
      obtain ⟨text, hjoined, hinfix⟩ := joinedSystem_infix hmem hrole htext
      exact ⟨text, systemTexts_responsesBody hjoined, hinfix⟩
    · intro value hvalue
      rw [hnoTemperature] at hvalue
      cases hvalue
    · intro value hvalue
      rw [hnoTopP] at hvalue
      cases hvalue

/-! ## Runs -/

/-- The messages of the hosted body are the request's, in order. -/
theorem turns_upstreamBody (request : InferenceRequest) :
    (upstreamBody request).turns = request.messages.map toOpenAIMessage := by
  unfold Json.turns upstreamBody samplingFields streamFields
  obtain h | h := outputTokenField_cases request.upstreamModel
  · simp [h, Json.items]
  · simp [h, Json.items]

/-- The messages of the OpenAI body are the request's, in order. -/
theorem turns_openAIBindingBody (request : InferenceRequest) :
    (openAIBindingBody request).turns = request.messages.map toOpenAIMessage := by
  unfold Json.turns openAIBindingBody samplingFields streamFields
  simp [Json.items]

/-- Every call of an accepted request carries all of it exactly when the shape of its body
    has a place for all of it. -/
theorem chat_carried (catalog : Catalog) (deps : GatewayRunnerDeps) (world : GatewayWorld)
    (gate : ChatGate) (body : Json) (req : ValidChatRequest) (request : InferenceRequest)
    (hreq : parseChatRequest body = .ok req) (hrun : gate.runRequest req = .ok request) :
    ∀ call ∈ (runnerFor catalog deps world request).calls, call.transitsGateway = true →
      (Carries gate.model.bodyShape req call.body ↔ gate.model.bodyShape.Supports req) := by
  intro call hcall htransits
  have haccepted := parseChatRequest_turns hreq
  obtain ⟨haddresses, hmessages, -, htemperature, htopP⟩ := ChatGate.runRequest_ok hrun
  -- the body depends on the request, and whether it streams
  obtain ⟨stream, hbody⟩ := runnerFor_body hcall htransits
  rw [hbody]
  apply (haddresses.withStream stream).sentBody_cases
    (motive := fun shape body => Carries shape req body ↔ shape.Supports req)
  -- the OpenAI bodies have room for every request
  case openAI =>
    obtain ⟨hsampled, hsampledTopP⟩ := sampling_upstreamBody { request with stream := stream }
    refine iff_of_true (carries_openAI ?_ (hsampled.trans htemperature)
      (hsampledTopP.trans htopP)) trivial
    rw [turns_upstreamBody, ← hmessages]
  case openAIBinding =>
    obtain ⟨hsampled, hsampledTopP⟩ := sampling_openAIBindingBody { request with stream := stream }
    refine iff_of_true (carries_openAI ?_ (hsampled.trans htemperature)
      (hsampledTopP.trans htopP)) trivial
    rw [turns_openAIBindingBody, ← hmessages]
  -- the others exactly where the shape supports it
  case anthropic => exact carries_anthropicBindingBody haccepted hmessages htemperature htopP
  case gemini =>
    exact fun _ => carries_geminiBindingBody haccepted hmessages htemperature htopP
  case responses => exact fun _ _ => carries_responsesBody (.inl rfl) haccepted hmessages
  case multiAgent => exact fun _ _ => carries_responsesBody (.inr rfl) haccepted hmessages

/-- Fable, which is reached through the binding. -/
def fable : CatalogEntry :=
  ⟨"anthropic/claude-fable-5", "anthropic/claude-fable-5", true, .chat, .chat, .unifiedBilling,
    .premium, none, none⟩

/-- A pro account with a premium Anthropic model. -/
def fableGate : ChatGate :=
  ⟨"req-1", "acct", "client", ⟨"pro", "Pro", 0, 0, 60, 4096, [.standard, .premium]⟩, fable,
    ⟨"token", "secret"⟩⟩

/-- A question about the image at an address. -/
def visionBody : Json :=
  .obj [("model", .str "anthropic/claude-fable-5"),
    ("messages", .arr [.obj [("role", .str "user"), ("content", .arr
      [.obj [("type", .str "text"), ("text", .str "What is this?")],
        .obj [("type", .str "image_url"),
          ("image_url", .obj [("url", .str "https://example.invalid/cat.png")])]])]])]

/-- A question about an image given by its https url. -/
def visionRequest : ValidChatRequest :=
  ⟨"anthropic/claude-fable-5", [⟨.user, "What is this?", ["https://example.invalid/cat.png"]⟩],
    none, none, none, false, none, none⟩

/-- What the runner is called with. -/
def visionCall : InferenceRequest where
  upstreamModel := "anthropic/claude-fable-5"
  bindingModel := some "anthropic/claude-fable-5"
  api := .chat
  billing := .unifiedBilling
  messages := [⟨.user, "What is this?", ["https://example.invalid/cat.png"]⟩]
  maxTokens := 4096
  temperature := none
  topP := none
  stream := false
  auth := ⟨"token", "secret"⟩
  metadata := [("account_id", "acct"), ("client_id", "client"), ("plan_id", "pro"),
    ("request_id", "req-1"), ("cf_token_id", "token")]

/-- The fable model is called with an Anthropic body. -/
theorem fable_bodyShape : fable.bodyShape = .anthropic := by decide +kernel

/-- The one call made for it. -/
def fableCall : UpstreamCall Json :=
  .binding "anthropic/claude-fable-5" (bindingChatBody visionCall)
    (some (bindingGatewayOptions "gateway"))

/-- The runner of the sample request makes the sample call. -/
theorem fableCall_sent : fableCall ∈ (runnerFor [fable] bindingDeps silentWorld visionCall).calls :=
  List.mem_singleton.mpr rfl

/-- The sample call carries the sample request exactly when an Anthropic body has room for it.
    -/
theorem chat_carried_fable :
    Carries .anthropic visionRequest fableCall.body ↔ BodyShape.anthropic.Supports visionRequest := by
  have h := chat_carried [fable] bindingDeps silentWorld fableGate visionBody visionRequest visionCall
    rfl rfl fableCall fableCall_sent rfl
  have hshape : fableGate.model.bodyShape = .anthropic := fable_bodyShape
  rwa [hshape] at h

/-- The image at an address does not reach the model. -/
theorem image_address_dropped :
    parseChatRequest visionBody = .ok visionRequest ∧
    fableGate.runRequest visionRequest = .ok visionCall ∧
    ∃ call ∈ (runnerFor [fable] bindingDeps silentWorld visionCall).calls,
      call.transitsGateway = true ∧ ¬Carries fable.bodyShape visionRequest call.body := by
  refine ⟨rfl, rfl, fableCall, fableCall_sent, rfl, ?_⟩
  have hbody : bindingChatBody visionCall = anthropicBindingBody visionCall := rfl
  -- the one turn is accepted as it is
  have haccepted : ∀ turn ∈ visionRequest.messages, AcceptedTurn turn := by
    intro turn hmem
    rw [List.mem_singleton.mp hmem]
    exact ⟨by decide, fun _ => rfl⟩
  rw [fable_bodyShape]
  show ¬Carries .anthropic visionRequest (bindingChatBody visionCall)
  rw [hbody, carries_anthropicBindingBody haccepted rfl rfl rfl]
  intro hsupports
  have h := hsupports _ List.mem_cons_self "https://example.invalid/cat.png" List.mem_cons_self
  revert h
  decide

end ControlPlane
