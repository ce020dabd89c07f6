import ControlPlane.Model.AnthropicSse

/-!
# The deferred stream, event by event

`src/anthropic-sse-to-openai.ts`: what `openAIStreamFromDeferredCompletion` does while
the model is called. The stream opens at once; from then on the keepalive timer, the
client that hangs up and the call that comes back can each happen in any order. After
`await opts.run()` the continuation runs through without another wait.

`openAIStreamFromDeferredCompletion` is what a client reads that stays to the end.
-/

namespace ControlPlane

open JsonText (JsStr)

/-- The stream's controller. On a stream that was cancelled or closed, `enqueue` throws. -/
inductive StreamController where
  | readable
  | cancelled
  | closed
deriving Repr, DecidableEq

/-- What `run()` comes to. -/
inductive RunOutcome where
  | resolved (result : DeferredCompletionResult)
  /-- The message of what was thrown; `none` where `String(err)` throws in its turn. -/
  | rejected (message : Option JsStr)

/-- What can happen to a deferred stream. -/
inductive DeferredEvent where
  | tick
  | cancel
  | settle (outcome : RunOutcome)

/-- The stream, and what it has sent. -/
structure DeferredStream where
  state : AnthropicToOpenAIState
  /-- The flag `closed`, which `enqueue`, the timer and `finish` share. -/
  closed : Bool
  /-- The keepalive interval is armed. -/
  timer : Bool
  controller : StreamController
  /-- What the controller took. -/
  sent : List String
  /-- `run()` has settled, and its continuation has finished. -/
  settled : Bool

namespace DeferredStream

open AnthropicSse

/-- An `enqueue` that throws sets the flag. -/
def enqueue (stream : DeferredStream) (text : String) : DeferredStream :=
  if stream.closed ∨ text = "" then stream
  else if stream.controller = .readable then { stream with sent := stream.sent ++ [text] }
  else { stream with closed := true }

/-- Stop the timer and close, once. -/
def finish (stream : DeferredStream) : DeferredStream :=
  if stream.closed then stream
  else { stream with
    closed := true
    timer := false
    controller := if stream.controller = .readable then .closed else stream.controller }

/-- `enqueue(finishAndUsage(state))`. -/
def enqueueFinish (stream : DeferredStream) : DeferredStream :=
  { stream with state := stream.state.finishAndUsage.1 }.enqueue stream.state.finishAndUsage.2

/-- The frame of an error, its message cut to 200 code units. -/
def errorFrame (message : JsStr) : String :=
  encodeFrame (.json (JsonText.object [("error", JsonText.object
    [("message", .str (message.take 200)), ("type", JsonText.text "upstream_error")])]))

/-- The continuation after `await opts.run()`. -/
def resolve (stream : DeferredStream) (result : DeferredCompletionResult) : DeferredStream :=
  let state := { stream.state with
    inputTokens := result.promptTokens <|> stream.state.inputTokens
    outputTokens := result.completionTokens <|> stream.state.outputTokens }
  let frames := (textSlices result.text).map state.textChunk
  (frames.foldl enqueue { stream with state := state }).enqueueFinish.finish

/-- The `catch`. -/
def reject (stream : DeferredStream) (message : JsStr) : DeferredStream :=
  let stream := stream.enqueue (errorFrame message)
  let stream := if stream.state.finished then stream else stream.enqueueFinish
  stream.finish

/-- What follows the settled promise. -/
def continuation (stream : DeferredStream) : RunOutcome → DeferredStream
  | .resolved result => stream.resolve result
  | .rejected (some message) => stream.reject message
  -- reading the message throws inside the `catch`, and nothing after it runs
  | .rejected none => stream

/-- One event. -/
def step (stream : DeferredStream) : DeferredEvent → DeferredStream
  | .tick => if stream.timer ∧ ¬ stream.closed then stream.enqueue KEEPALIVE else stream
  | .cancel =>
    { stream with controller :=
        if stream.controller = .readable then .cancelled else stream.controller }
  | .settle outcome =>
    -- a promise settles once
    if stream.settled then stream else { stream.continuation outcome with settled := true }

/-- The timer keeps an open stream alive. -/
theorem step_tick (stream : DeferredStream) : stream.step .tick =
    if stream.timer ∧ ¬ stream.closed then stream.enqueue KEEPALIVE else stream := rfl

/-- A cancel ends a readable stream. -/
theorem step_cancel (stream : DeferredStream) : stream.step .cancel = { stream with controller :=
    if stream.controller = .readable then .cancelled else stream.controller } := rfl

/-- The promise settles once. -/
theorem step_settle (stream : DeferredStream) (outcome : RunOutcome) :
    stream.step (.settle outcome) =
      if stream.settled then stream
      else { stream.continuation outcome with settled := true } := rfl

/-- After `start`: the opening frame is out and the interval armed. -/
def start (id model : JsStr) (created : Int) : DeferredStream :=
  let state := newAnthropicToOpenAIState id model created
  let stream : DeferredStream := ⟨state.openChunk.1, false, false, .readable, [], false⟩
  { stream.enqueue state.openChunk.2 with timer := true }

/-- The stream after some events. -/
def run (stream : DeferredStream) (events : List DeferredEvent) : DeferredStream :=
  events.foldl step stream

end DeferredStream

end ControlPlane
