import ControlPlane.Model.Upstream

/-!
# Gemini contents

The loop of `geminiBindingBody` in `src/upstream.ts`, over its own parts and its own role
names. It is written apart from the loop for Anthropic models.
-/

namespace ControlPlane

/-- A part of a Gemini turn. -/
inductive GeminiPart where
  | text (text : String)
  | inlineData (mimeType data : String)
deriving Repr, DecidableEq

/-- A turn of a Gemini body. -/
structure GeminiContent where
  role : String
  parts : List GeminiPart
deriving Repr, DecidableEq

/-- An inline image as a part; an address is none. -/
def geminiInlineImage (url : String) : Option GeminiPart :=
  (inlineImage url).map fun image => .inlineData image.1 image.2

/-- The parts of one message: its inline images, then its text. -/
def geminiMessageParts (m : ChatTurn) : List GeminiPart :=
  let parts := m.images.filterMap geminiInlineImage
  if JsString.trim m.content ≠ "" ∨ parts = [] then
    parts ++ [.text (if m.content = "" then " " else m.content)]
  else parts

/-- Join a text to the last text part, when there is one. -/
def joinLastText (new : String) : List GeminiPart → Option (List GeminiPart)
  | [] => none
  | part :: parts =>
    -- the last text part, wherever it stands among the images
    match joinLastText new parts with
    | some joined => some (part :: joined)
    | none =>
      match part with
      | .text old => some (.text (if old = "" then new else old ++ "\n\n" ++ new) :: parts)
      | .inlineData _ _ => none

/-- Append a part, joined to the text before it where both are text. -/
def pushPart (parts : List GeminiPart) (part : GeminiPart) : List GeminiPart :=
  match part with
  | .text new => (joinLastText new parts).getD (parts ++ [part])
  | .inlineData _ _ => parts ++ [part]

/-- The name of a role that is not `system`. -/
def geminiContentRole (role : ChatRole) : String := if role = .assistant then "model" else "user"

/-- One pass of the loop, for a message that is not a system message. -/
def addContent (contents : List GeminiContent) (m : ChatTurn) : List GeminiContent :=
  match contents.getLast? with
  | some prev =>
    if prev.role = geminiContentRole m.role then
      contents.dropLast ++ [{ prev with parts := (geminiMessageParts m).foldl pushPart prev.parts }]
    else contents ++ [⟨geminiContentRole m.role, geminiMessageParts m⟩]
  | none => [⟨geminiContentRole m.role, geminiMessageParts m⟩]

/-- The contents of a request. Leading model turns are invalid and dropped. -/
def geminiContents (messages : List ChatTurn) : List GeminiContent :=
  ((dialogue messages).foldl addContent []).dropWhile (·.role = "model")

/-- A part as it is sent. -/
def GeminiPart.toJson : GeminiPart → Json
  | .text content => .obj [("text", .str content)]
  | .inlineData mimeType data => .obj [("inlineData", .obj
      [("mimeType", .str mimeType), ("data", .str data)])]

/-- A turn as it is sent. -/
def GeminiContent.toJson (content : GeminiContent) : Json :=
  .obj [("role", .str content.role), ("parts", .arr (content.parts.map (·.toJson)))]

end ControlPlane
