import ControlPlane.ForStd.Base64
import ControlPlane.ForStd.DataUrl
import ControlPlane.Model.Inference

/-!
# The chat request

`src/chat-request.ts`: the body of a chat completion, validated. A field that is not
known is refused, and so is an image that is not one.
-/

namespace ControlPlane

open JsString (startsWith)

/-- The fields of a body that are read; any other is refused. -/
def ALLOWED_FIELDS : List String :=
  ["model", "messages", "max_tokens", "temperature", "top_p", "stream", "image"]

/-- The cap on messages. -/
def MAX_MESSAGES : Nat := 200

/-- The cap on the text of one message, in UTF-16 units. -/
def MAX_CONTENT_CHARS : Nat := 200000

/-- The cap on a decoded image: 4 MiB. -/
def MAX_IMAGE_BYTES : Nat := 4 * 1024 * 1024

/-- A validated message. -/
abbrev ChatTurnInput := ChatTurn

/-- A validated request. -/
structure ValidChatRequest where
  model : String
  messages : List ChatTurnInput
  maxTokens : Option Int
  temperature : Option Rat
  topP : Option Rat
  stream : Bool
  imageDataUrl : Option String
  imageBytes : Option (List UInt8)

/-! ## Images -/

/-- `[A-Za-z0-9+/=\s]` -/
def isBase64Char (c : Char) : Bool :=
  c.isAlphanum || c == '+' || c == '/' || c == '=' || JsString.isTrimmed c

/-- `/^data:(image\/[a-z0-9.+-]+);base64,([A-Za-z0-9+/=\s]+)$/i`: the media type in lower
    case and the payload without white space. -/
def inlineImage (url : String) : Option (String × String) :=
  let pattern : DataUrl.Pattern := ⟨true, true, DataUrl.family true "image/" DataUrl.isSubtype⟩
  ((pattern.exec url).filter fun m => m.2.toList.all isBase64Char).map fun m =>
    (JsString.toLowerCase m.1, JsString.removeSpaces m.2)

/-- Decode an image data URL into its bytes and its media type. -/
def parseImageDataUrl (dataUrl : String) : Except String (List UInt8 × String) :=
  match inlineImage dataUrl with
  | none => .error ("\"image\" must be a data URL of the form data:image/<type>;base64,... " ++
      "(https URLs and bare base64 are refused).")
  | some (mime, b64) =>
    match Base64.atob b64 with
    | none => .error "\"image\" base64 payload could not be decoded."
    | some bytes =>
      -- the cap is on the decoded bytes
      if bytes.length = 0 then .error "\"image\" decoded to zero bytes."
      else if MAX_IMAGE_BYTES < bytes.length then
        .error ("\"image\" is " ++ toString bytes.length ++ " bytes decoded; the cap is " ++
          toString MAX_IMAGE_BYTES ++ ".")
      else .ok (bytes, mime)

/-- `http:` and `https:` addresses. -/
def isHttpImage (url : String) : Bool := startsWith url "https://" || startsWith url "http://"

/-! ## Turns -/

/-- The role of a turn, when it is one of the three. -/
def parseRole (role : String) : Option ChatRole :=
  if role = "system" then some .system
  else if role = "user" then some .user
  else if role = "assistant" then some .assistant
  else none

/-- The address of an `image_url` part. -/
def parseImageUrl (place : String) (part : Json) : Except String String :=
  -- a bare text, or an object with the text in `url`
  let sent := match part.field "image_url" with
    | some (.str url) => some url
    | some value => value.strField "url"
    | none => none
  match (sent.map JsString.trim).bind nonempty with
  | none => .error (place ++ ".image_url must be a non-empty url string or \x7burl\x7d.")
  | some url =>
    if startsWith url "data:image/" then
      match parseImageDataUrl url with
      | .error message => .error (place ++ ": " ++ message)
      | .ok _ => .ok url
    else if isHttpImage url then .ok url
    else .error (place ++ ".image_url must be a data:image/... or http(s) URL.")

/-- One part of a content array. -/
inductive ContentPart where
  | text (text : String)
  | image (url : String)

/-- One part: a text, or an image by its address. -/
def parsePart (place : String) (part : Json) : Except String ContentPart :=
  if !part.isObject then .error (place ++ " must be an object.")
  else
    -- a type that is missing is reported as the empty one
    let type := (part.strField "type").getD ""
    if type = "text" then
      match part.strField "text" with
      | none => .error (place ++ ".text must be a string.")
      | some text => .ok (.text text)
    else if type = "image_url" then (parseImageUrl place part).map .image
    else .error (place ++ ".type must be \"text\" or \"image_url\" (got " ++
      String.ofList (JsonText.quote (Utf16.encode type)) ++ ").")

/-- The parts of the content of turn `i`, from part `j` on. -/
def parseParts (i : Nat) : Nat → List Json → Except String (List ContentPart)
  | _, [] => .ok []
  | j, part :: parts => do
    let parsed ← parsePart ("messages[" ++ toString i ++ "].content[" ++ toString j ++ "]") part
    let rest ← parseParts i (j + 1) parts
    pure (parsed :: rest)

/-- The texts of the parts. -/
def partTexts (parts : List ContentPart) : List String :=
  parts.filterMap fun part =>
    match part with
    | .text text => some text
    | .image _ => none

/-- The images of the parts. -/
def partImages (parts : List ContentPart) : List String :=
  parts.filterMap fun part =>
    match part with
    | .text _ => none
    | .image url => some url

/-- The text and the images of a turn. -/
def parseContent (i : Nat) (content : Option Json) : Except String (String × List String) :=
  match content with
  | some (.str text) => .ok (text, [])
  | some (.arr items) => do
    let parts ← parseParts i 0 items
    let text := String.intercalate "\n" (partTexts parts)
    let images := partImages parts
    -- only an array can turn out empty; an empty string is accepted
    if text = "" ∧ images = [] then
      throw ("messages[" ++ toString i ++
        "].content multiparty array produced no text or images.")
    pure (text, images)
  | _ => .error ("messages[" ++ toString i ++
      "].content must be a string or an array of \x7btype:text|image_url\x7d parts.")

/-- One message: a role, and a content of text or parts. -/
def parseTurn (i : Nat) (turn : Json) : Except String ChatTurnInput :=
  let place := "messages[" ++ toString i ++ "]"
  match turn with
  | .obj fields =>
    -- the first unknown key, in the order of the object
    match fields.find? fun f => f.1 ≠ "role" ∧ f.1 ≠ "content" with
    | some f => .error (place ++ " has unknown field \"" ++ f.1 ++
        "\"; only role and content are accepted.")
    | none =>
      match ((Json.obj fields).strField "role").bind parseRole with
      | none => .error (place ++ ".role must be one of system, user, assistant.")
      | some role => do
        let (text, images) ← parseContent i ((Json.obj fields).field "content")
        if MAX_CONTENT_CHARS < JsString.length text then
          throw (place ++ ".content is " ++ toString (JsString.length text) ++
            " characters; the cap is " ++ toString MAX_CONTENT_CHARS ++ ".")
        -- checked after the content, so a bad part is reported first
        if images ≠ [] ∧ role ≠ .user then
          throw (place ++ ": image_url parts are only allowed on user turns.")
        pure ⟨role, text, images⟩
  | _ => .error (place ++ " must be an object.")

/-- The turns from turn `i` on. -/
def parseTurns : Nat → List Json → Except String (List ChatTurnInput)
  | _, [] => .ok []
  | i, turn :: turns => do
    let parsed ← parseTurn i turn
    let rest ← parseTurns (i + 1) turns
    pure (parsed :: rest)

/-! ## The request -/

/-- The messages: an array that is neither empty nor too long. -/
def parseMessages (raw : Json) : Except String (List ChatTurnInput) :=
  match raw.field "messages" with
  | some (.arr (turn :: turns)) =>
    if MAX_MESSAGES < (turn :: turns).length then
      .error ("\"messages\" has " ++ toString (turn :: turns).length ++ " entries; the cap is " ++
        toString MAX_MESSAGES ++ ".")
    else parseTurns 0 (turn :: turns)
  | _ => .error "\"messages\" is required and must be a non-empty array."

/-- `max_tokens`: a positive integer when present. -/
def parseMaxTokens (raw : Json) : Except String (Option Int) :=
  match raw.field "max_tokens" with
  | none => .ok none
  | some value =>
    match (Json.integer (some value)).filter (1 ≤ ·) with
    | some n => .ok (some n)
    | none => .error "\"max_tokens\" must be a positive integer when present."

/-- A sampling parameter: a number in the range the plane publishes. -/
def parseSampling (raw : Json) (name range : String) (inRange : Rat → Bool) :
    Except String (Option Rat) :=
  match raw.field name with
  | none => .ok none
  | some (.num value) =>
    if inRange value then .ok (some value)
    else .error ("\"" ++ name ++ "\" must be " ++ range ++ ".")
  | some _ => .error ("\"" ++ name ++ "\" must be a finite number when present.")

/-- `stream`: a boolean when present. -/
def parseStream (raw : Json) : Except String Bool :=
  match raw.field "stream" with
  | none => .ok false
  | some (.bool stream) => .ok stream
  | some _ => .error "\"stream\" must be a boolean when present."

/-- The retired image field: its text and its bytes. -/
def parseImage (raw : Json) : Except String (Option (String × List UInt8)) :=
  match raw.field "image" with
  | none => .ok none
  | some _ =>
    match ((raw.strField "image").map JsString.trim).bind nonempty with
    | none => .error "\"image\" must be a non-empty data URL string when present."
    | some image => (parseImageDataUrl image).map fun parsed => some (image, parsed.1)

/-- Validate a body, checks in the source's order. -/
def parseChatRequest (body : Json) : Except String ValidChatRequest :=
  match body with
  | .obj fields =>
    -- unknown fields are refused before any known one is looked at
    match fields.find? fun f => !ALLOWED_FIELDS.contains f.1 with
    | some f => .error ("Unknown field \"" ++ f.1 ++ "\". This plane forwards only model, " ++
        "messages, max_tokens, temperature, top_p, stream, and image; unknown fields are refused " ++
        "rather than dropped so a client never believes it sent a parameter that was ignored.")
    | none =>
      match (((Json.obj fields).strField "model").map JsString.trim).bind nonempty with
      | none => .error "\"model\" is required and must be a non-empty string."
      | some model => do
        let messages ← parseMessages body
        let maxTokens ← parseMaxTokens body
        let temperature ← parseSampling body "temperature" "between 0 and 2"
          fun t => 0 ≤ t && t ≤ 2
        let topP ← parseSampling body "top_p" "greater than 0 and at most 1"
          fun p => 0 < p && p ≤ 1
        let stream ← parseStream body
        let image ← parseImage body
        pure ⟨model, messages, maxTokens, temperature, topP, stream, image.map (·.1),
          image.map (·.2)⟩
  | _ => .error "Request body must be a JSON object."

/-! ## What an accepted request is -/

/-- A turn the validator accepts: its images are addresses or inline, and its role is the
    user's when it has any. -/
structure AcceptedTurn (turn : ChatTurnInput) : Prop where
  images : ∀ url ∈ turn.images, isHttpImage url = true ∨ (inlineImage url).isSome = true
  role : turn.images ≠ [] → turn.role = .user

/-- What decodes is inline. -/
theorem inlineImage_of_parse {url : String} {parsed : List UInt8 × String}
    (h : parseImageDataUrl url = .ok parsed) : (inlineImage url).isSome = true := by
  unfold parseImageDataUrl at h
  cases himage : inlineImage url with
  | none =>
    rw [himage] at h
    cases h
  | some image => rfl

/-- An accepted address is one of the two kinds. -/
theorem parseImageUrl_ok {place : String} {part : Json} {url : String}
    (h : parseImageUrl place part = .ok url) :
    isHttpImage url = true ∨ (inlineImage url).isSome = true := by
  unfold parseImageUrl at h
  dsimp only at h
  split at h
  · cases h
  split at h
  next =>
    split at h
    · cases h
    next hparsed =>
      obtain rfl := Except.ok.inj h
      exact .inr (inlineImage_of_parse hparsed)
  next =>
    split at h
    next hhttp =>
      obtain rfl := Except.ok.inj h
      exact .inl hhttp
    next => cases h

/-- So is the address of an accepted image part. -/
theorem parsePart_ok {place : String} {part : Json} {url : String}
    (h : parsePart place part = .ok (.image url)) :
    isHttpImage url = true ∨ (inlineImage url).isSome = true := by
  unfold parsePart at h
  dsimp only at h
  split at h
  · cases h
  split at h
  · split at h <;> cases h
  split at h
  next =>
    cases himage : parseImageUrl place part with
    | error message =>
      rw [himage] at h
      cases h
    | ok url' =>
      rw [himage] at h
      cases h
      exact parseImageUrl_ok himage
  next => cases h

/-- And of every part of a content. -/
theorem parseParts_ok {i j : Nat} {parts : List Json} {parsed : List ContentPart}
    (h : parseParts i j parts = .ok parsed) :
    ∀ url ∈ partImages parsed, isHttpImage url = true ∨ (inlineImage url).isSome = true := by
  induction parts generalizing j parsed with
  | nil =>
    cases h
    exact fun url hmem => by cases hmem
  | cons part parts ih =>
    obtain ⟨first, hfirst, h⟩ := bind_ok h
    obtain ⟨rest, hrest, h⟩ := bind_ok h
    cases h
    intro url hmem
    cases first with
    -- a text part gives no image
    | text text => exact ih hrest url hmem
    | image url' =>
      cases hmem with
      | head => exact parsePart_ok hfirst
      | tail _ hmem => exact ih hrest url hmem

/-- The images of a content are what its parts gave. -/
theorem parseContent_ok {i : Nat} {content : Option Json} {text : String} {images : List String}
    (h : parseContent i content = .ok (text, images)) :
    ∀ url ∈ images, isHttpImage url = true ∨ (inlineImage url).isSome = true := by
  unfold parseContent at h
  split at h
  next =>
    cases h
    exact fun url hmem => by cases hmem
  next =>
    obtain ⟨parts, hparts, h⟩ := bind_ok h
    dsimp only at h
    split at h
    · cases h
    · cases h
      exact parseParts_ok hparts
  next => cases h

/-- An accepted message is an accepted turn. -/
theorem parseTurn_ok {i : Nat} {turn : Json} {parsed : ChatTurnInput}
    (h : parseTurn i turn = .ok parsed) : AcceptedTurn parsed := by
  unfold parseTurn at h
  dsimp only at h
  split at h
  next fields =>
    -- the two refusals of an unknown role
    split at h
    · cases h
    split at h
    · cases h
    next role _ =>
      obtain ⟨⟨text, images⟩, hcontent, h⟩ := bind_ok h
      dsimp only at h
      split at h
      · cases h
      split at h
      · cases h
      -- the last refusal passed: images only in a user turn
      next hrole =>
        cases h
        constructor
        · exact parseContent_ok hcontent
        · intro himages
          by_contra hother
          exact hrole ⟨himages, hother⟩
  next => cases h

/-- So are all that are accepted together. -/
theorem parseTurns_ok {i : Nat} {turns : List Json} {parsed : List ChatTurnInput}
    (h : parseTurns i turns = .ok parsed) : ∀ turn ∈ parsed, AcceptedTurn turn := by
  induction turns generalizing i parsed with
  | nil =>
    cases h
    exact fun turn hmem => by cases hmem
  | cons turn turns ih =>
    obtain ⟨first, hfirst, h⟩ := bind_ok h
    obtain ⟨rest, hrest, h⟩ := bind_ok h
    cases h
    intro turn' hmem
    cases hmem with
    | head => exact parseTurn_ok hfirst
    | tail _ hmem => exact ih hrest turn' hmem

/-- And those of a body. -/
theorem parseMessages_ok {raw : Json} {messages : List ChatTurnInput}
    (h : parseMessages raw = .ok messages) : ∀ turn ∈ messages, AcceptedTurn turn := by
  unfold parseMessages at h
  split at h
  next =>
    split at h
    · cases h
    · exact parseTurns_ok h
  next => cases h

/-- Every turn of an accepted request is an accepted turn. -/
theorem parseChatRequest_turns {body : Json} {req : ValidChatRequest}
    (h : parseChatRequest body = .ok req) : ∀ turn ∈ req.messages, AcceptedTurn turn := by
  unfold parseChatRequest at h
  split at h
  next fields =>
    split at h
    · cases h
    split at h
    · cases h
    next model _ =>
      obtain ⟨messages, hmessages, h⟩ := bind_ok h
      obtain ⟨maxTokens, -, h⟩ := bind_ok h
      obtain ⟨temperature, -, h⟩ := bind_ok h
      obtain ⟨topP, -, h⟩ := bind_ok h
      obtain ⟨stream, -, h⟩ := bind_ok h
      obtain ⟨image, -, h⟩ := bind_ok h
      cases h
      exact parseMessages_ok hmessages
  next => cases h

/-- An address is never inline. -/
theorem inlineImage_of_http {url : String} (h : isHttpImage url = true) : inlineImage url = none := by
  have hscheme : "http".toList <+: url.toList := by
    cases (Bool.or_eq_true _ _).mp h with
    | inl h => exact List.IsPrefix.trans (by decide) (List.isPrefixOf_iff_prefix.mp h)
    | inr h => exact List.IsPrefix.trans (by decide) (List.isPrefixOf_iff_prefix.mp h)
  obtain ⟨rest, hrest⟩ := hscheme
  unfold inlineImage DataUrl.Pattern.exec
  dsimp only
  rw [← hrest]
  rfl

end ControlPlane
