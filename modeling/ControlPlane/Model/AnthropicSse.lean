import ControlPlane.Model.Stream

/-!
# Chat-completions streams of buffered answers

`src/anthropic-sse-to-openai.ts`: the frames of a stream the plane writes itself,
and the stream that opens at once, keeps the connection alive while the model is
called without streaming, and sends its answer when it is there.
-/

namespace ControlPlane

open JsonText (JsStr Value)

/-- `data:` payloads: a literal text, or a value to write as JSON. -/
inductive FramePayload where
  | literal (text : String)
  | json (value : Value)

/-- The text of a payload. -/
def FramePayload.data : FramePayload → String
  | .literal text => text
  | .json value => String.ofList (JsonText.stringify value)

namespace AnthropicSse

/-- A comment line, which clients skip. -/
def KEEPALIVE : String := ": prism-keepalive\n\n"

/-- One `data:` frame. -/
def encodeFrame (payload : FramePayload) : String := "data: " ++ payload.data ++ "\n\n"

end AnthropicSse

/-- What the transform remembers between events. -/
structure AnthropicToOpenAIState where
  id : JsStr
  model : JsStr
  created : Int
  inputTokens : Option Int
  outputTokens : Option Int
  opened : Bool
  finished : Bool

/-- A new stream, under the id minted for it. -/
def newAnthropicToOpenAIState (id model : JsStr) (created : Int) : AnthropicToOpenAIState :=
  ⟨id, model, created, none, none, false, false⟩

namespace AnthropicToOpenAIState

open AnthropicSse

variable (state : AnthropicToOpenAIState)

/-- A chunk of the stream: its choices, and the fields after them. -/
def chunk (choices : List Value) (more : List (String × Value)) : FramePayload :=
  .json (JsonText.object ([("id", .str state.id), ("object", JsonText.text "chat.completion.chunk"),
    ("created", .num state.created), ("model", .str state.model), ("choices", .arr choices)] ++ more))

/-- The one choice of a chunk. -/
def choice (delta : List (String × Value)) (finishReason : Value) : Value :=
  JsonText.object [("index", .num 0), ("delta", JsonText.object delta),
    ("finish_reason", finishReason)]

/-- The first chunk: the role, with no content yet. -/
def openChunk : AnthropicToOpenAIState × String :=
  ({ state with opened := true }, encodeFrame (state.chunk
    [choice [("role", JsonText.text "assistant"), ("content", JsonText.text "")] .null] []))

/-- A chunk of text. -/
def textChunk (text : JsStr) : String :=
  encodeFrame (state.chunk [choice [("content", .str text)] .null] [])

/-- The counts of the trailing frame. -/
def usage : Value :=
  let inputTokens := state.inputTokens.getD 0
  let outputTokens := state.outputTokens.getD 0
  JsonText.object [("prompt_tokens", .num inputTokens), ("completion_tokens", .num outputTokens),
    ("total_tokens", .num (inputTokens + outputTokens : Int))]

/-- The end of a stream: the finish, the counts where there are some, and `[DONE]`. -/
def finishAndUsage : AnthropicToOpenAIState × String :=
  let finish := encodeFrame (state.chunk [choice [] (JsonText.text "stop")] [])
  let usageFrame := if state.inputTokens.isSome ∨ state.outputTokens.isSome then
    encodeFrame (state.chunk [] [("usage", state.usage)]) else ""
  ({ state with finished := true }, finish ++ usageFrame ++ encodeFrame (.literal "[DONE]"))

end AnthropicToOpenAIState

/-- What the buffered call comes back with. -/
structure DeferredCompletionResult where
  text : JsStr
  promptTokens : Option Int
  completionTokens : Option Int

/-- Code units of a text frame. -/
def chunkSize : Nat := 48

/-- `text.slice(i, i + chunkSize)` for every `i` of the loop. -/
def textSlices (text : JsStr) : List JsStr :=
  (List.range ((text.length + (chunkSize - 1)) / chunkSize)).map fun k =>
    (text.drop (k * chunkSize)).take chunkSize

/-- What the stream writes, piece by piece: `keepalives` ticks of the timer come before
    the call is back. An `error` is the message of what the call threw. -/
def openAIStreamFromDeferredCompletion (state : AnthropicToOpenAIState) (keepalives : Nat)
    (result : Except JsStr DeferredCompletionResult) : List String :=
  let (state, opening) := state.openChunk
  opening :: List.replicate keepalives AnthropicSse.KEEPALIVE ++
    match result with
    -- the counts of the call, where it has some, replace those of the state
    | .ok result =>
      let state := { state with
        inputTokens := result.promptTokens <|> state.inputTokens
        outputTokens := result.completionTokens <|> state.outputTokens }
      (textSlices result.text).map state.textChunk ++ [state.finishAndUsage.2]
    -- the `catch`: an error frame, and the end of the stream if it has none yet
    | .error message =>
      AnthropicSse.encodeFrame (.json (JsonText.object [("error", JsonText.object
        [("message", .str (message.take 200)), ("type", JsonText.text "upstream_error")])])) ::
      if state.finished then [] else [state.finishAndUsage.2]

end ControlPlane
