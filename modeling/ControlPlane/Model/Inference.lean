import ControlPlane.Model.Catalog
import ControlPlane.Model.Meter

/-!
# The upstream contract

`src/inference.ts`: what a call to the model looks like and what it can come back with,
and the reader of its text. The reader inspects what arrived; a property read on `null`
and a method that is not there throw.
-/

namespace ControlPlane

/-! ## Requests -/

/-- Who says a message. -/
inductive ChatRole where
  | system
  | user
  | assistant
deriving Repr, DecidableEq

/-- One turn. Its images are the addresses of its vision parts. -/
structure ChatTurn where
  role : ChatRole
  content : String
  images : List String
deriving Repr, DecidableEq

/-- The credential a call is made with. -/
structure UpstreamAuth where
  tokenId : String
  value : String
deriving DecidableEq

/-- What a runner is called with. -/
structure InferenceRequest where
  upstreamModel : String
  /-- Set where the model is reached through the binding. -/
  bindingModel : Option String
  api : ChatApi
  billing : Billing
  messages : List ChatTurn
  maxTokens : Int
  temperature : Option Rat
  topP : Option Rat
  stream : Bool
  auth : UpstreamAuth
  metadata : List (String × String)

/-! ## Answers -/

/-- A `TypeError`. -/
structure TypeError where
deriving Repr, DecidableEq

/-- What a reader that may throw returns. -/
abbrev Throws (α : Type) := Except TypeError α

namespace Json

/-- `value === null`. -/
def isNull : Json → Bool
  | .null => true
  | _ => false

/-- `if (value)`. -/
def truthy : Json → Bool
  | .null => false
  | .bool value => value
  | .num value => value != 0
  | .str value => value != ""
  | .arr _ | .obj _ => true

mutual

/-- `String(value)`, as `join` converts what it joins. An object that carries a
    `toString` of its own is not convertible. -/
def toText : Json → Throws String
  | .null => .ok "null"
  | .bool value => .ok (if value then "true" else "false")
  | .num value => .ok (jsNumber value)
  | .str value => .ok value
  | .arr items => (itemTexts items).map (String.intercalate ",")
  | .obj fields => if fields.any (·.1 == "toString") then .error ⟨⟩ else .ok "[object Object]"

/-- The items of an array as `join` converts them: `null` is empty. -/
def itemTexts : List Json → Throws (List String)
  | [] => .ok []
  | item :: items => do
    let text ← match item with
      | .null => .ok ""
      | item => toText item
    let texts ← itemTexts items
    pure (text :: texts)

end

end Json

/-- A text that is not empty. -/
def nonempty (text : String) : Option String := if text = "" then none else some text

/-- The `text` fields of content parts, joined. -/
def joinParts (parts : List Json) : String :=
  String.join ((parts.filter Json.isObject).map fun part => (part.strField "text").getD "")

/-- OpenAI shape: the first choice's content, text or reasoning. -/
def choicesText (choices : List Json) : Option String :=
  match choices with
  | [] => none
  | first :: _ =>
    let message := first.field "message"
    let content := message.bind (·.field "content")
    let reasoning := Json.orElse (message.bind (·.field "reasoning_content"))
      (message.bind (·.field "reasoning"))
    (match content with
      | some (.str text) => nonempty text
      | some (.arr parts) => nonempty (joinParts parts)
      | _ => none) <|>
    ((first.strField "text").bind nonempty) <|>
    (match reasoning with
      | some (.str text) => nonempty text
      | _ => none) <|>
    (match content with
      -- an empty content is an answer when nothing else is there
      | some (.str text) => if text = "" then some "" else none
      | _ => none)

/-- The blocks of one type, joined. -/
def blocksText (kind : String) (blocks : List Json) : String :=
  String.join (blocks.filterMap fun block =>
    if block.strField "type" = some kind then block.strField kind else none)

/-- Anthropic shape: text blocks, or thinking blocks when there is no text. -/
def contentText (blocks : List Json) : Option String :=
  nonempty (blocksText "text" blocks) <|> nonempty (blocksText "thinking" blocks)

/-- The texts of one item of a Responses `output`. -/
def outputTexts (block : Json) : Throws (List String) :=
  let texts (content : List Json) : Throws (List String) :=
    (content.filter fun c => c.strField "type" = some "output_text" ∨
      c.strField "type" = some "text").mapM fun c =>
        match c.field "text" with
        | none | some .null => .ok ""
        | some text => text.toText
  match block.field "content" with
  | some (.arr content) => texts content
  | none | some .null => .ok []
  -- a message whose content has no `filter`
  | some _ => if block.strField "type" = some "message" then .error ⟨⟩ else .ok []

/-- Responses shape: the text blocks of the messages in `output`. -/
def outputText (output : List Json) : Throws (Option String) := do
  let texts ← output.mapM outputTexts
  pure (nonempty (String.join texts.flatten))

/-- The texts of Gemini parts. -/
def partsText (parts : List Json) : String :=
  String.join (parts.filterMap (·.strField "text"))

/-- A Gemini part that is a thought. -/
def isThought (part : Json) : Bool :=
  match part.field "thought" with
  | some (.bool true) => true
  | _ => false

/-- Gemini shape: the answer parts of the first candidate, or any text of it. -/
def candidatesText (candidates : List Json) : Throws (Option String) :=
  match candidates with
  | [] => .ok none
  | candidate :: _ =>
    match (candidate.field "content").bind (·.field "parts") with
    | some (.arr parts) =>
      -- reading `text` of a part that is null throws
      if parts.any Json.isNull then .error ⟨⟩
      else .ok (nonempty (partsText (parts.filter fun part => !isThought part)) <|>
        nonempty (partsText parts) <|>
        if parts.isEmpty || ((candidate.field "finishReason").map Json.truthy).getD false then
          some "" else none)
    | _ => .ok none

/-- The shapes of one body, in the order they are tried. -/
def shapesText (body : Json) : Throws (Option String) := do
  -- the shapes in the order the source tries them; the first text wins
  match body.strField "response" with
  | some text => pure (some text)
  | none =>
  match body.strField "description" with
  | some text => pure (some text)
  | none =>
  match (match body.field "choices" with
      | some (.arr choices) => choicesText choices
      | _ => none) with
  | some text => pure (some text)
  | none =>
  match (match body.field "content" with
      | some (.arr blocks) => contentText blocks
      | _ => none) with
  | some text => pure (some text)
  | none =>
  let output ← match body.field "output" with
    | some (.arr output) => outputText output
    | _ => pure none
  match output with
  | some text => pure (some text)
  | none =>
  match body.field "candidates" with
  | some (.arr candidates) => candidatesText candidates
  | _ => pure none

mutual

/-- Pull the assistant text out of whatever shape came back. -/
def extractText : Json → Throws (Option String)
  | .obj fields => do
    match ← shapesText (.obj fields) with
    | some text => pure (some text)
    | none => resultText fields
  | _ => .ok none

/-- The text of what is wrapped in `result`. -/
def resultText : List (String × Json) → Throws (Option String)
  | [] => .ok none
  | (name, value) :: fields =>
    if name = "result" then extractText value else resultText fields

end

/-- What a run of the model can end in. The bytes of a stream are not part of it. -/
inductive InferenceResult where
  | ok (body : Json) (gatewayLogId : Option String)
  | stream (gatewayLogId : Option String)
  | upstreamError (status : Option Int) (detail : String)
  | timeout (waitedMs : Nat)

end ControlPlane
