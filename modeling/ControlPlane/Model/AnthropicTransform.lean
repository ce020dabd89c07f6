import ControlPlane.ForStd.Utf8Text
import ControlPlane.Model.AnthropicSse
import ControlPlane.Model.DeferredStream
import ControlPlane.Model.StreamRelay

/-!
# Anthropic's event stream as chat-completions chunks

`src/anthropic-sse-to-openai.ts`: the interpreter of one event, the line buffer in front
of it, the stream that pumps a source through it while a timer keeps the connection
alive, and the stream of an answer that is already there. How the source cuts its bytes,
when the timer fires and when the client hangs up are events.
-/

namespace ControlPlane

open JsonText (JsStr Value)

namespace AnthropicSse

/-- `Number.isInteger(value)`, and the integer it is. -/
def integerOf : Option Value → Option Int
  | some (.num q) => if q.den = 1 then some q.num else none
  | _ => none

/-- `value?.name` -/
def member (value : Option Value) (name : String) : Option Value := value.bind (·.field name)

/-- `typeof value?.name === "string"`, and the string. -/
def textMember (value : Option Value) (name : String) : Option JsStr :=
  (member value name).bind Value.asString

/-- `id.replace(/^msg_/, "")` -/
def withoutMsg (id : JsStr) : JsStr :=
  if (Utf16.encode "msg_").isPrefixOf id then id.drop 4 else id

end AnthropicSse

open AnthropicSse

namespace AnthropicToOpenAIState

variable (state : AnthropicToOpenAIState)

/-- Counts that are integers replace those of the state. -/
def takeUsage (usage : Option Value) : AnthropicToOpenAIState :=
  { state with
    inputTokens := integerOf (member usage "input_tokens") <|> state.inputTokens
    outputTokens := integerOf (member usage "output_tokens") <|> state.outputTokens }

/-- The id of the provider's message, when it has one. -/
def takeId (id : Option JsStr) : AnthropicToOpenAIState :=
  match id with
  | some (unit :: units) =>
    { state with id := Utf16.encode "chatcmpl-" ++ withoutMsg (unit :: units) }
  | _ => state

/-- `if (!state.opened) out += openChunk(state)` -/
def openOnce : AnthropicToOpenAIState × String :=
  if state.opened then (state, "") else state.openChunk

/-- `if (!state.finished)`: the opening frame, if it is not out yet, and the last ones. -/
def finishOnce : AnthropicToOpenAIState × String :=
  if state.finished then (state, "")
  else
    let (state, opening) := state.openOnce
    let (state, ending) := state.finishAndUsage
    (state, opening ++ ending)

end AnthropicToOpenAIState

/-- One event of the source. What is no object has no type, and is ignored. -/
def anthropicPayloadToOpenAIFrames (state : AnthropicToOpenAIState) (data : Value) :
    AnthropicToOpenAIState × String :=
  match (textMember (some data) "type").map fun t => String.ofList (Utf16.decode t) with
  | some "message_start" =>
    let msg := data.field "message"
    ((state.takeId (textMember msg "id")).takeUsage (member msg "usage")).openOnce
  | some "content_block_delta" =>
    let delta := data.field "delta"
    match textMember delta "type", textMember delta "text" with
    | some kind, some (unit :: units) =>
      if kind = Utf16.encode "text_delta" then
        let (state, opening) := state.openOnce
        (state, opening ++ state.textChunk (unit :: units))
      else (state, KEEPALIVE)
    -- thinking, signatures and tool input are not shown, but keep the connection alive
    | _, _ => (state, KEEPALIVE)
  | some "message_delta" => (state.takeUsage (data.field "usage"), KEEPALIVE)
  | some "message_stop" => state.finishOnce
  | some "content_block_start" | some "content_block_stop" | some "ping" => (state, KEEPALIVE)
  | _ => (state, "")

/-! ## The line buffer -/

/-- The data of a line: `none` for a line that is no data, an empty one and a sentinel. -/
def anthropicData (rawLine : String) : Option String :=
  -- `rawLine.replace(/\r$/, "")`
  let line := if rawLine.toList.getLast? = some '\r' then rawLine.toList.dropLast
    else rawLine.toList
  if "data:".toList.isPrefixOf line then
    let payload := JsString.trim (String.ofList (line.drop "data:".toList.length))
    if payload = "" ∨ payload ∈ sentinels then none else some payload
  else none

/-- The event on a line, if its data is JSON. -/
def anthropicEvent (rawLine : String) : Option Value :=
  (anthropicData rawLine).bind fun payload => JsonText.parse payload.toList

/-- `AnthropicSseToOpenAI` -/
structure AnthropicSseToOpenAI where
  buffer : String
  decoder : TextDecoder.utf8.State
  state : AnthropicToOpenAIState

namespace AnthropicSseToOpenAI

/-- A transform that has read nothing. -/
def new (state : AnthropicToOpenAIState) : AnthropicSseToOpenAI :=
  ⟨"", TextDecoder.utf8.start, state⟩

/-- One line: an event, or nothing. -/
def consumeLine (state : AnthropicToOpenAIState) (rawLine : String) :
    AnthropicToOpenAIState × String :=
  match anthropicEvent rawLine with
  | none => (state, "")
  | some parsed => anthropicPayloadToOpenAIFrames state parsed

/-- `for (const line of lines) out += this.consumeLine(line)` -/
def consumeLines (state : AnthropicToOpenAIState) : List String → AnthropicToOpenAIState × String
  | [] => (state, "")
  | line :: lines =>
    let (state, out) := consumeLine state line
    let (state, rest) := consumeLines state lines
    (state, out ++ rest)

variable (transformer : AnthropicSseToOpenAI)

/-- A chunk: every line it completes is consumed, and the rest stays in the buffer. -/
def push (chunk : Chunk) : AnthropicSseToOpenAI × Chunk :=
  let (decoder, text) := TextDecoder.utf8.decode transformer.decoder chunk
  let lines := JsString.split (transformer.buffer ++ text) '\n'
  let (state, out) := consumeLines transformer.state lines.dropLast
  (⟨(lines.getLast?).getD "", decoder, state⟩, TextEncoder.encode out)

/-- `end()` -/
def stop : AnthropicSseToOpenAI × Chunk :=
  let buffer := transformer.buffer ++ TextDecoder.utf8.flush transformer.decoder
  let (state, out) := if buffer = "" then (transformer.state, "")
    else consumeLine transformer.state buffer
  -- a source that broke off has sent no `message_stop`
  let (state, ending) := state.finishOnce
  (⟨"", TextDecoder.utf8.start, state⟩, TextEncoder.encode (out ++ ending))

end AnthropicSseToOpenAI

/-! ## The stream -/

/-- `openAIStreamFromCompletion`: the one chunk it enqueues. -/
def openAIStreamFromCompletion (state : AnthropicToOpenAIState)
    (result : DeferredCompletionResult) : Chunk :=
  let state := { state with
    inputTokens := result.promptTokens <|> state.inputTokens
    outputTokens := result.completionTokens <|> state.outputTokens }
  let (state, opening) := state.openChunk
  TextEncoder.encode (opening ++ String.join ((textSlices result.text).map state.textChunk) ++
    state.finishAndUsage.2)

/-- What happens to a stream that pumps a source. -/
inductive AnthropicStreamEvent where
  /-- The keepalive timer fires. -/
  | tick
  /-- The read that waits comes back. -/
  | source (result : ReadResult)
  | cancel

/-- `anthropicSseToOpenAIStream` between two events. -/
structure AnthropicStream where
  transformer : AnthropicSseToOpenAI
  /-- The keepalive interval is armed. -/
  timer : Bool
  closed : Bool
  controller : StreamController
  /-- What the controller took. -/
  sent : List Chunk
  /-- The loop waits for a read. -/
  pumping : Bool

namespace AnthropicStream

/-- After `start`. -/
def start (state : AnthropicToOpenAIState) : AnthropicStream :=
  ⟨.new state, true, false, .readable, [], true⟩

variable (stream : AnthropicStream)

/-- `controller.enqueue(chunk)`, `none` where it throws. -/
def enqueue (chunk : Chunk) : Option AnthropicStream :=
  if stream.controller = .readable then some { stream with sent := stream.sent ++ [chunk] }
  else none

/-- `if (chunk.byteLength > 0) controller.enqueue(chunk)` -/
def enqueueNonempty (chunk : Chunk) : Option AnthropicStream :=
  if chunk = [] then some stream else stream.enqueue chunk

/-- Stop the timer, write what is left and close, once. -/
def closeOpenAI : AnthropicStream :=
  if stream.closed then stream
  else
    let (transformer, tail) := stream.transformer.stop
    let stream := { stream with closed := true, timer := false, transformer := transformer }
    -- what `enqueue` and `close` throw is caught
    let stream := (stream.enqueueNonempty tail).getD stream
    { stream with controller :=
        if stream.controller = .readable then .closed else stream.controller }

/-- The loop from a read that came back to its next read. -/
def resume : ReadResult → AnthropicStream
  | .done | .failed => { stream.closeOpenAI with pumping := false }
  | .chunk value =>
    let (transformer, out) := stream.transformer.push value
    let stream := { stream with transformer := transformer }
    match stream.enqueueNonempty out with
    | some stream => { stream with pumping := !stream.closed }
    -- the `catch`
    | none => { stream.closeOpenAI with pumping := false }

/-- One event. -/
def step : AnthropicStreamEvent → AnthropicStream
  | .tick =>
    if stream.timer ∧ ¬ stream.closed then
      (stream.enqueue (TextEncoder.encode KEEPALIVE)).getD stream
    else stream
  | .source result => if stream.pumping then stream.resume result else stream
  -- a stream that is over is not cancelled
  | .cancel =>
    if stream.controller = .readable then
      { stream with controller := .cancelled, closed := true, timer := false }
    else stream

/-- Events, one after another. -/
def run (events : List AnthropicStreamEvent) : AnthropicStream := events.foldl step stream

end AnthropicStream

end ControlPlane
