import ControlPlane.Spec.ChatFrames

/-!
# What the translated stream says

An Anthropic stream says a text, piece by piece, how many tokens went in and out, and that
it is over. `translated` is the list of frames a client should get for its events. The
interpreter carries one event over at a time, in whole lines, so what it writes has these
frames wherever the bytes are cut.

## Key results

- `payload_step` / `payload_stop`: what one event writes
- `framed_translated`: the frames of a whole run
- `push_append`: two chunks are translated as one
- `anthropic_translated`: the frames and the report of every stream, however it is cut
-/

namespace ControlPlane

open JsonText (JsStr Value)
open SseUsageScanner AnthropicSse

/-! ## What the source says -/

/-- The type of an event, where it has one. -/
def eventType (event : Value) : Option String :=
  (textMember (some event) "type").map fun t => String.ofList (Utf16.decode t)

/-- The text of an event: a text delta that is not empty. -/
def textDelta (event : Value) : Option JsStr :=
  if eventType event = some "content_block_delta" ∧
      textMember (event.field "delta") "type" = some (Utf16.encode "text_delta") then
    (textMember (event.field "delta") "text").filter fun text => !text.isEmpty
  else none

/-- Whether an event is the one that ends the message. -/
def isStop (event : Value) : Bool := eventType event == some "message_stop"

/-- The usage of an event: of the message that starts, or at the top of a delta. -/
def eventUsage (event : Value) : Option Value :=
  if eventType event = some "message_start" then member (event.field "message") "usage"
  else if eventType event = some "message_delta" then event.field "usage"
  else none

/-- A count of an event. -/
def eventCount (name : String) (event : Value) : Option Int :=
  integerOf (member (eventUsage event) name)

/-- The last count the source gave. -/
def lastCount (name : String) (events : List Value) : Option Int :=
  (events.filterMap (eventCount name)).getLast?

/-- The frame of the counts: none without a count, and zero for one that is missing. -/
def usageTold (input output : Option Int) : List ChatFrame :=
  if input.isSome ∨ output.isSome then
    [.usage (JsonText.object [("prompt_tokens", .num (input.getD 0)),
      ("completion_tokens", .num (output.getD 0)),
      ("total_tokens", .num ((input.getD 0 + output.getD 0 : Int) : Rat))])]
  else []

/-- The content of events. -/
def contentTold (events : List Value) : List ChatFrame :=
  (events.filterMap textDelta).map .content

/-- The frames of a source: an empty piece of content first, the texts up to the first stop,
    the finish, the counts as they stand there, and the end. Text that the source sends
    after its stop is passed on after the end. -/
def translated (events : List Value) : List ChatFrame :=
  let said := events.takeWhile fun event => !isStop event
  let after := events.dropWhile fun event => !isStop event
  .content [] :: contentTold said ++
    .finish :: usageTold (lastCount "input_tokens" said) (lastCount "output_tokens" said) ++
    .done :: contentTold after

/-! ## One event -/

namespace AnthropicToOpenAIState

variable (state : AnthropicToOpenAIState)

/-- The opening that is still to come. -/
def opening : List ChatFrame := if state.opened then [] else [.content []]

/-- A state that has opened has no opening left to write. -/
theorem opening_of_opened {state : AnthropicToOpenAIState} (h : state.opened = true) :
    state.opening = [] := if_pos h

/-- Opening writes the opening frame, once. -/
theorem framed_openOnce : Framed state.openOnce.2 state.opening := by
  unfold openOnce opening
  split
  next => exact .empty
  next => exact state.framed_openChunk

/-- Only the flag changes. -/
theorem openOnce_fst : state.openOnce.1 = { state with opened := true } := by
  unfold openOnce
  split
  next h => rw [← h]
  next => rfl

/-- After opening the state has opened. -/
@[simp] theorem openOnce_opened : state.openOnce.1.opened = true := by rw [openOnce_fst]

/-- Opening leaves the end alone. -/
@[simp] theorem openOnce_finished : state.openOnce.1.finished = state.finished := by
  rw [openOnce_fst]

/-- Opening leaves the input count alone. -/
@[simp] theorem openOnce_inputTokens : state.openOnce.1.inputTokens = state.inputTokens := by
  rw [openOnce_fst]

/-- Opening leaves the output count alone. -/
@[simp] theorem openOnce_outputTokens : state.openOnce.1.outputTokens = state.outputTokens := by
  rw [openOnce_fst]

/-- A second opening writes nothing. -/
@[simp] theorem openOnce_opening : state.openOnce.1.opening = [] :=
  opening_of_opened state.openOnce_opened

/-- Taking counts leaves the opening alone. -/
@[simp] theorem takeUsage_opened (usage : Option Value) :
    (state.takeUsage usage).opened = state.opened := rfl

/-- Taking counts leaves the end alone. -/
@[simp] theorem takeUsage_finished (usage : Option Value) :
    (state.takeUsage usage).finished = state.finished := rfl

/-- Taking an id leaves the opening alone. -/
@[simp] theorem takeId_opened (id : Option JsStr) : (state.takeId id).opened = state.opened := by
  unfold takeId
  split <;> rfl

/-- Taking an id leaves the end alone. -/
@[simp] theorem takeId_finished (id : Option JsStr) :
    (state.takeId id).finished = state.finished := by
  unfold takeId
  split <;> rfl

/-- Taking an id leaves the input count alone. -/
@[simp] theorem takeId_inputTokens (id : Option JsStr) :
    (state.takeId id).inputTokens = state.inputTokens := by
  unfold takeId
  split <;> rfl

/-- Taking an id leaves the output count alone. -/
@[simp] theorem takeId_outputTokens (id : Option JsStr) :
    (state.takeId id).outputTokens = state.outputTokens := by
  unfold takeId
  split <;> rfl

/-- An event that does not end the stream: what it writes, with the opening that is still
    to come after it, is the opening that was to come and its text. -/
structure CarriesEvent (data : Value) (result : AnthropicToOpenAIState × String) : Prop where
  framed : ∃ told, Framed result.2 told ∧
    told ++ result.1.opening = state.opening ++ contentTold [data]
  opened : state.opened = true → result.1.opened = true
  finished : result.1.finished = state.finished
  inputTokens : result.1.inputTokens = (eventCount "input_tokens" data <|> state.inputTokens)
  outputTokens : result.1.outputTokens = (eventCount "output_tokens" data <|> state.outputTokens)

/-- An event that is only answered by a comment, or by nothing. -/
theorem carriesEvent_silent {data : Value} {out : String} (hout : Framed out [])
    (htext : textDelta data = none) (husage : eventUsage data = none) :
    state.CarriesEvent data (state, out) := by
  -- an event without a usage has no count
  have hcount : ∀ name, eventCount name data = none := by
    intro name
    rw [eventCount, husage]
    rfl
  refine ⟨⟨[], hout, ?_⟩, fun h => h, rfl, ?_, ?_⟩
  · rw [contentTold, List.filterMap_cons, htext]
    simp
  · rw [hcount]
    rfl
  · rw [hcount]
    rfl

/-- An event without text tells none. -/
theorem contentTold_of_none {event : Value} (h : textDelta event = none) :
    contentTold [event] = [] := by
  rw [contentTold, List.filterMap_cons, h]
  rfl

/-- `message_start`: its usage is taken, and the opening frame is written. -/
theorem carriesEvent_messageStart {data : Value} (hevent : eventType data = some "message_start") :
    let started := (state.takeId (textMember (data.field "message") "id")).takeUsage
      (member (data.field "message") "usage")
    state.CarriesEvent data started.openOnce := by
  intro started
  have htext : textDelta data = none := by simp [textDelta, hevent]
  -- the counts of the start lie in its message
  have hcount : ∀ name, eventCount name data =
      integerOf (member (member (data.field "message") "usage") name) := by
    intro name
    rw [eventCount, eventUsage, if_pos hevent]
  refine ⟨⟨_, started.framed_openOnce, ?_⟩, fun _ => openOnce_opened _, ?_, ?_, ?_⟩
  · simp [started, contentTold_of_none htext, opening]
  · simp [started]
  · simp [started, hcount, takeUsage]
  · simp [started, hcount, takeUsage]

/-- A text delta: the opening where it is still to come, and the text. -/
theorem carriesEvent_text {data : Value} {text : JsStr} (hsaid : textDelta data = some text)
    (husage : eventUsage data = none) :
    state.CarriesEvent data
      (state.openOnce.1, state.openOnce.2 ++ state.openOnce.1.textChunk text) := by
  have hcount : ∀ name, eventCount name data = none := by
    intro name
    rw [eventCount, husage]
    rfl
  -- the opening, where it has not been sent, and then the text
  have hframed := state.framed_openOnce.append (state.openOnce.1.framed_textChunk text)
  refine ⟨⟨_, hframed, ?_⟩, fun _ => state.openOnce_opened, ?_, ?_, ?_⟩
  · simp [contentTold, hsaid]
  · simp
  · simp [hcount]
  · simp [hcount]

/-- `message_delta`: its counts are taken, and the connection is kept alive. -/
theorem carriesEvent_messageDelta {data : Value} (hevent : eventType data = some "message_delta") :
    state.CarriesEvent data (state.takeUsage (data.field "usage"), KEEPALIVE) := by
  have htext : textDelta data = none := by simp [textDelta, hevent]
  -- the counts of a delta lie in the event itself
  have hcount : ∀ name, eventCount name data = integerOf (member (data.field "usage") name) := by
    intro name
    simp [eventCount, eventUsage, hevent]
  refine ⟨⟨[], framed_keepalive, ?_⟩, fun h => h, rfl, ?_, ?_⟩
  · rw [contentTold_of_none htext, List.append_nil]
    rfl
  · rw [hcount]
    rfl
  · rw [hcount]
    rfl

/-- Every event but the stop carries what it says. -/
theorem payload_step {data : Value} (h : isStop data = false) :
    state.CarriesEvent data (anthropicPayloadToOpenAIFrames state data) := by
  unfold anthropicPayloadToOpenAIFrames
  generalize htype : (textMember (some data) "type").map (fun t => String.ofList (Utf16.decode t)) =
    type
  have hevent : eventType data = type := htype
  split
  next => exact state.carriesEvent_messageStart hevent
  next =>
    -- content_block_delta: text is written, anything else keeps the connection alive
    have husage : eventUsage data = none := by simp [eventUsage, hevent]
    dsimp only
    split
    next kind unit units hkind htext =>
      split
      next hdelta =>
        apply state.carriesEvent_text _ husage
        rw [textDelta, if_pos ⟨hevent, by rw [hkind, hdelta]⟩, htext]
        rfl
      next hdelta =>
        apply state.carriesEvent_silent framed_keepalive _ husage
        rw [textDelta, if_neg]
        rintro ⟨-, hother⟩
        exact hdelta (Option.some.inj (hkind.symm.trans hother))
    next hno =>
      apply state.carriesEvent_silent framed_keepalive _ husage
      rw [textDelta]
      split
      next hdelta =>
        cases htext : textMember (data.field "delta") "text" with
        | none => rfl
        | some text =>
          cases text with
          | nil => rfl
          | cons unit units => exact (hno _ _ _ hdelta.2 htext).elim
      next => rfl
  next => exact state.carriesEvent_messageDelta hevent
  next => exact absurd hevent (by simpa [isStop] using h)
  next =>
    exact state.carriesEvent_silent framed_keepalive (by simp [textDelta, hevent])
      (by simp [eventUsage, hevent])
  next =>
    exact state.carriesEvent_silent framed_keepalive (by simp [textDelta, hevent])
      (by simp [eventUsage, hevent])
  next =>
    exact state.carriesEvent_silent framed_keepalive (by simp [textDelta, hevent])
      (by simp [eventUsage, hevent])
  next hstart hdelta hmore _ _ _ _ =>
    apply state.carriesEvent_silent .empty
    · rw [textDelta, if_neg]
      exact fun hboth => hdelta (hevent.symm.trans hboth.1)
    · rw [eventUsage, if_neg fun hother => hstart (hevent.symm.trans hother),
        if_neg fun hother => hmore (hevent.symm.trans hother)]

/-- A stop writes the end, unless it is out already. -/
theorem payload_stop {data : Value} (h : isStop data = true) :
    anthropicPayloadToOpenAIFrames state data = state.finishOnce := by
  have hevent : eventType data = some "message_stop" := by simpa [isStop] using h
  unfold anthropicPayloadToOpenAIFrames
  rw [show (textMember (some data) "type").map (fun t => String.ofList (Utf16.decode t)) =
    some "message_stop" from hevent]
  rfl

/-- The frames of the end. -/
def endTold : List ChatFrame :=
  state.opening ++ .finish :: usageTold state.inputTokens state.outputTokens ++ [.done]

/-- The first end writes the finish and the counts. -/
theorem framed_finishOnce (h : state.finished = false) :
    Framed state.finishOnce.2 state.endTold := by
  unfold finishOnce
  rw [if_neg (by rw [h]; exact Bool.false_ne_true)]
  have hending := state.framed_openOnce.append state.openOnce.1.framed_finishAndUsage
  have hcounts : state.openOnce.1.usageFrames =
      usageTold state.inputTokens state.outputTokens := by
    rw [openOnce_fst]
    rfl
  rw [hcounts, ← List.append_assoc] at hending
  exact hending

/-- After the end nothing is left to open or to finish. -/
theorem finishOnce_over (h : state.finished = false) :
    state.finishOnce.1.finished = true ∧ state.finishOnce.1.opened = true := by
  unfold finishOnce
  rw [if_neg (by rw [h]; exact Bool.false_ne_true)]
  exact ⟨rfl, state.openOnce_opened⟩

end AnthropicToOpenAIState

/-! ## A run -/

open AnthropicToOpenAIState

/-- Events one after the other. -/
def interpret (state : AnthropicToOpenAIState) : List Value → AnthropicToOpenAIState × String
  | [] => (state, "")
  | event :: events =>
    let next := anthropicPayloadToOpenAIFrames state event
    let rest := interpret next.1 events
    (rest.1, next.2 ++ rest.2)

/-- The text told is the first event's, then the others'. -/
theorem contentTold_cons (event : Value) (events : List Value) :
    contentTold (event :: events) = contentTold [event] ++ contentTold events := by
  rw [contentTold, contentTold, contentTold, ← List.map_append, ← List.filterMap_append]
  rfl

/-- A stop carries no text. -/
theorem contentTold_stop {event : Value} (h : isStop event = true) : contentTold [event] = [] := by
  have hevent : eventType event = some "message_stop" := by simpa [isStop] using h
  have hnone : textDelta event = none := by simp [textDelta, hevent]
  rw [contentTold, List.filterMap_cons, hnone]
  rfl

/-- What is written after the end: the text only. -/
theorem framed_over {state : AnthropicToOpenAIState} (hfinished : state.finished = true)
    (hopened : state.opened = true) (events : List Value) :
    Framed (interpret state events).2 (contentTold events) ∧
      (interpret state events).1.finished = true := by
  induction events generalizing state with
  | nil => exact ⟨.empty, hfinished⟩
  | cons event events ih =>
    unfold interpret
    rw [contentTold_cons]
    dsimp only
    cases hstop : isStop event with
    | true =>
      -- a second stop
      have hskip : anthropicPayloadToOpenAIFrames state event = (state, "") := by
        rw [state.payload_stop hstop, finishOnce, if_pos hfinished]
      rw [hskip, contentTold_stop hstop, String.empty_append]
      exact ih hfinished hopened
    | false =>
      have hstep := state.payload_step hstop
      obtain ⟨told, hframed, htold⟩ := hstep.framed
      have hopened' := hstep.opened hopened
      rw [opening_of_opened hopened, opening_of_opened hopened', List.append_nil] at htold
      obtain ⟨hrest, hover⟩ := ih (hstep.finished.trans hfinished) hopened'
      subst htold
      exact ⟨hframed.append hrest, hover⟩

/-- Counts given later replace earlier ones. -/
theorem lastCount_cons (name : String) (event : Value) (events : List Value) (count : Option Int) :
    (lastCount name (event :: events) <|> count) =
      (lastCount name events <|> (eventCount name event <|> count)) := by
  unfold lastCount
  rw [List.filterMap_cons]
  cases eventCount name event with
  | none => rfl
  | some n =>
    dsimp only
    rw [List.getLast?_cons]
    cases (events.filterMap (eventCount name)).getLast? <;> rfl

/-- The frames of a run from any state that is not finished, with the end that the stream
    writes when its source is over. -/
theorem framed_interpret {state : AnthropicToOpenAIState} (hfinished : state.finished = false)
    (events : List Value) :
    let said := events.takeWhile fun event => !isStop event
    let after := events.dropWhile fun event => !isStop event
    Framed ((interpret state events).2 ++ (interpret state events).1.finishOnce.2)
      (state.opening ++ contentTold said ++
        .finish :: usageTold (lastCount "input_tokens" said <|> state.inputTokens)
          (lastCount "output_tokens" said <|> state.outputTokens) ++
        .done :: contentTold after) := by
  induction events generalizing state with
  | nil =>
    have hend := state.framed_finishOnce hfinished
    show Framed ("" ++ state.finishOnce.2) (state.opening ++ [] ++
      .finish :: usageTold state.inputTokens state.outputTokens ++ [.done])
    rw [String.empty_append, List.append_nil]
    exact hend
  | cons event events ih =>
    intro said after
    have hinterpret : interpret state (event :: events) =
        ((interpret (anthropicPayloadToOpenAIFrames state event).1 events).1,
          (anthropicPayloadToOpenAIFrames state event).2 ++
            (interpret (anthropicPayloadToOpenAIFrames state event).1 events).2) := rfl
    rw [hinterpret]
    cases hstop : isStop event with
    | true =>
      -- the end is written here, and not again when the source is over
      have hsaid : said = [] := by simp [said, hstop]
      have hafter : after = event :: events := by simp [after, hstop]
      have hover := state.finishOnce_over hfinished
      obtain ⟨hrest, hstill⟩ := framed_over hover.1 hover.2 events
      have hnomore : (interpret state.finishOnce.1 events).1.finishOnce.2 = "" := by
        rw [finishOnce, if_pos hstill]
      have hboth := (state.framed_finishOnce hfinished).append hrest
      rw [state.payload_stop hstop, hsaid, hafter, contentTold_cons, contentTold_stop hstop,
        hnomore, String.append_empty]
      simpa [endTold, lastCount, contentTold] using hboth
    | false =>
      have hsaid : said = event :: events.takeWhile fun event => !isStop event := by
        simp [said, hstop]
      have hafter : after = events.dropWhile fun event => !isStop event := by
        simp [after, hstop]
      have hstep := state.payload_step hstop
      obtain ⟨told, hframed, htold⟩ := hstep.framed
      have hboth := hframed.append (ih (hstep.finished.trans hfinished))
      rw [hstep.inputTokens, hstep.outputTokens, ← lastCount_cons, ← lastCount_cons] at hboth
      rw [hsaid, hafter, String.append_assoc, contentTold_cons, ← List.append_assoc state.opening,
        ← htold]
      simpa [List.append_assoc] using hboth

/-- All that is written for the events of a source. -/
theorem framed_translated (id model : JsStr) (created : Int) (events : List Value) :
    let state := newAnthropicToOpenAIState id model created
    Framed ((interpret state events).2 ++ (interpret state events).1.finishOnce.2)
      (translated events) := by
  intro state
  have hframed := framed_interpret (show state.finished = false from rfl) events
  -- nothing was counted before the first event
  have hcount : ∀ said, (lastCount "input_tokens" said <|> state.inputTokens) =
      lastCount "input_tokens" said ∧
      (lastCount "output_tokens" said <|> state.outputTokens) = lastCount "output_tokens" said := by
    intro said
    constructor
    · cases lastCount "input_tokens" said <;> rfl
    · cases lastCount "output_tokens" said <;> rfl
  dsimp only at hframed
  rw [(hcount _).1, (hcount _).2] at hframed
  exact hframed

/-! ## Chunks -/

/-- The events on the lines of a text. -/
def sourceEvents (text : String) : List Value := (linesOf text).filterMap anthropicEvent

namespace AnthropicSseToOpenAI

/-- Consuming lines is interpreting the events they hold. -/
theorem consumeLines_eq (state : AnthropicToOpenAIState) (lines : List String) :
    consumeLines state lines = interpret state (lines.filterMap anthropicEvent) := by
  induction lines generalizing state with
  | nil => rfl
  | cons line lines ih =>
    rw [consumeLines, List.filterMap_cons]
    unfold consumeLine
    cases anthropicEvent line with
    | none =>
      dsimp only
      rw [ih, String.empty_append]
    | some event =>
      dsimp only
      rw [ih]
      rfl

/-- Lines consumed in two goes write what they write in one. -/
theorem consumeLines_append (state : AnthropicToOpenAIState) (lines more : List String) :
    consumeLines state (lines ++ more) =
      ((consumeLines (consumeLines state lines).1 more).1,
        (consumeLines state lines).2 ++ (consumeLines (consumeLines state lines).1 more).2) := by
  induction lines generalizing state with
  | nil =>
    show consumeLines state more = (_, "" ++ _)
    rw [String.empty_append]
    rfl
  | cons line lines ih =>
    rw [List.cons_append, consumeLines, consumeLines]
    dsimp only
    rw [ih, String.append_assoc]

/-- One line alone is consumed as that line. -/
theorem consumeLines_singleton (state : AnthropicToOpenAIState) (line : String) :
    consumeLines state [line] = consumeLine state line := by
  show ((consumeLine state line).1, (consumeLine state line).2 ++ "") = _
  rw [String.append_empty]

/-- An empty line says nothing. -/
theorem consumeLine_empty (state : AnthropicToOpenAIState) :
    consumeLine state "" = (state, "") := by
  have hnone : anthropicEvent "" = none := by decide +kernel
  rw [consumeLine, hnone]

variable (transformer : AnthropicSseToOpenAI)

/-- A chunk is translated line by line, and what it leaves open is kept. -/
theorem push_eq (chunk : Chunk) :
    transformer.push chunk =
      (⟨openLine (transformer.buffer ++ (TextDecoder.utf8.decode transformer.decoder chunk).2),
        (TextDecoder.utf8.decode transformer.decoder chunk).1,
        (consumeLines transformer.state (linesOf (transformer.buffer ++
          (TextDecoder.utf8.decode transformer.decoder chunk).2)).dropLast).1⟩,
        TextEncoder.encode (consumeLines transformer.state (linesOf (transformer.buffer ++
          (TextDecoder.utf8.decode transformer.decoder chunk).2)).dropLast).2) := by
  have hlast := getLast?_linesOf
    (transformer.buffer ++ (TextDecoder.utf8.decode transformer.decoder chunk).2)
  rw [linesOf] at hlast
  unfold push
  dsimp only
  rw [hlast]
  rfl

/-- Two chunks are translated as one. -/
theorem push_append (chunk more : Chunk) :
    transformer.push (chunk ++ more) =
      (((transformer.push chunk).1.push more).1,
        (transformer.push chunk).2 ++ ((transformer.push chunk).1.push more).2) := by
  have hdecode := TextDecoder.utf8_lawful.decode_append transformer.decoder chunk more
  rw [push_eq, push_eq transformer chunk, push_eq, hdecode]
  dsimp only
  rw [← String.append_assoc, linesOf_append, openLine_append (transformer.buffer ++ _),
    List.dropLast_append_of_ne_nil (linesOf_ne_nil _), consumeLines_append,
    TextEncoder.encode_append]

/-- Push the chunks of a source, one after the other. -/
def pushAll : AnthropicSseToOpenAI → List Chunk → AnthropicSseToOpenAI × List Chunk
  | transformer, [] => (transformer, [])
  | transformer, chunk :: chunks =>
    let next := transformer.push chunk
    let rest := pushAll next.1 chunks
    (rest.1, next.2 :: rest.2)

/-- What is left open has no line break. -/
def Open (transformer : AnthropicSseToOpenAI) : Prop :=
  openLine transformer.buffer = transformer.buffer

/-- A transformer that is pushed a chunk is open. -/
theorem open_push (chunk : Chunk) : (transformer.push chunk).1.Open := by
  have happend := openLine_append
    (transformer.buffer ++ (TextDecoder.utf8.decode transformer.decoder chunk).2) ""
  rw [String.append_empty, String.append_empty] at happend
  rw [Open, push_eq]
  exact happend.symm

/-- An empty chunk changes nothing. -/
theorem push_nil {transformer : AnthropicSseToOpenAI} (h : transformer.Open) :
    transformer.push [] = (transformer, []) := by
  have hdecode := TextDecoder.utf8_lawful.decode_nil transformer.decoder
  have hlines : linesOf transformer.buffer = [transformer.buffer] := by
    rw [← h, linesOf_of_not_mem (newline_not_mem_openLine _)]
  rw [push_eq, hdecode]
  dsimp only
  rw [String.append_empty, hlines, h]
  rfl

/-- The chunks of a source are translated as the whole. -/
theorem pushAll_eq {transformer : AnthropicSseToOpenAI} (h : transformer.Open)
    (chunks : List Chunk) :
    (transformer.pushAll chunks).1 = (transformer.push chunks.flatten).1 ∧
      (transformer.pushAll chunks).2.flatten = (transformer.push chunks.flatten).2 := by
  induction chunks generalizing transformer with
  | nil =>
    rw [List.flatten_nil, push_nil h]
    exact ⟨rfl, rfl⟩
  -- pushed one after the other or as one, the chunks write the same
  | cons chunk chunks ih =>
    obtain ⟨hstate, hout⟩ := ih (transformer.open_push chunk)
    rw [List.flatten_cons, push_append]
    unfold pushAll
    dsimp only
    rw [List.flatten_cons]
    exact ⟨hstate, congrArg _ hout⟩

/-- `end()` reads the open line, and writes the end. -/
theorem stop_eq : transformer.stop =
    let buffer := transformer.buffer ++ TextDecoder.utf8.flush transformer.decoder
    let read := consumeLine transformer.state buffer
    (⟨"", TextDecoder.utf8.start, read.1.finishOnce.1⟩,
      TextEncoder.encode (read.2 ++ read.1.finishOnce.2)) := by
  unfold stop
  dsimp only
  split
  next h => rw [h, consumeLine_empty]
  next => rfl

/-- All a client gets for a source that ends. -/
def translate (state : AnthropicToOpenAIState) (chunks : List Chunk) : List UInt8 :=
  let pushed := (new state).pushAll chunks
  pushed.2.flatten ++ pushed.1.stop.2

/-- The bytes written are those of the interpreted events and of the end. -/
theorem translate_eq (state : AnthropicToOpenAIState) (chunks : List Chunk) :
    let events := sourceEvents (TextDecoder.utf8.text chunks.flatten)
    translate state chunks =
      TextEncoder.encode ((interpret state events).2 ++
        (interpret state events).1.finishOnce.2) := by
  intro events
  obtain ⟨hstate, hout⟩ := pushAll_eq (show (new state).Open from rfl) chunks
  cases hdecode : TextDecoder.utf8.decode TextDecoder.utf8.start chunks.flatten with
  | mk decoder text =>
    have htext : TextDecoder.utf8.text chunks.flatten = text ++ TextDecoder.utf8.flush decoder := by
      rw [TextDecoder.text, hdecode]
    -- an unfinished character is no line break: it goes to the open line
    have hlast : linesOf (openLine text ++ TextDecoder.utf8.flush decoder) =
        [openLine text ++ TextDecoder.utf8.flush decoder] := by
      apply linesOf_of_not_mem
      rw [String.toList_append, List.mem_append, not_or]
      exact ⟨newline_not_mem_openLine text,
        TextDecoder.utf8_lawful.newline_not_mem_flush decoder⟩
    have hpush : (new state).push chunks.flatten =
        (⟨openLine text, decoder, (consumeLines state (linesOf text).dropLast).1⟩,
          TextEncoder.encode (consumeLines state (linesOf text).dropLast).2) := by
      rw [push_eq]
      show (_, _) = _
      dsimp only [new]
      rw [hdecode, String.empty_append]
    have hinterpret : interpret state events = consumeLines state
        ((linesOf text).dropLast ++ [openLine text ++ TextDecoder.utf8.flush decoder]) := by
      rw [consumeLines_eq]
      show interpret state ((linesOf (TextDecoder.utf8.text chunks.flatten)).filterMap _) = _
      rw [htext, linesOf_append, hlast]
    unfold translate
    dsimp only
    rw [hstate, hout, hpush, stop_eq, hinterpret, consumeLines_append, consumeLines_singleton]
    dsimp only
    rw [← TextEncoder.encode_append, String.append_assoc]

end AnthropicSseToOpenAI

/-- A client reads the bytes as the translation of the source's events. -/
theorem wrote_translate (id model : JsStr) (created : Int) (chunks : List Chunk) :
    Wrote (AnthropicSseToOpenAI.translate (newAnthropicToOpenAIState id model created) chunks)
      (translated (sourceEvents (TextDecoder.utf8.text chunks.flatten))) :=
  ⟨_, AnthropicSseToOpenAI.translate_eq _ chunks, framed_translated id model created _⟩

/-- However the source's bytes are cut, a client that reads the translated stream to its
    end takes from it exactly the frames of the source's events, and the scanner reports
    what these frames say. -/
theorem anthropic_translated (id model : JsStr) (created : Int) (chunks : List Chunk) :
    let received := TextDecoder.utf8.text
      (AnthropicSseToOpenAI.translate (newAnthropicToOpenAIState id model created) chunks)
    let told := translated (sourceEvents (TextDecoder.utf8.text chunks.flatten))
    chatFrames received = told ∧ reportOf received = reportOfFrames told :=
  (wrote_translate id model created chunks).read

end ControlPlane
