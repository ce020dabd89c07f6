import ControlPlane.Model.DeferredStream
import ControlPlane.Spec.TextDeltas

/-!
# How a deferred stream ends

A stream whose client stays until the call is back ends with one finish frame and one
`[DONE]`, and its keepalive interval is cleared. Once the client has hung up the next
`enqueue` throws and sets the flag that `finish` returns at, so the interval stays
armed: every tick of it from then on does nothing, for as long as the isolate lives.

## Key results

- `endsOnce_deferred`: what a client reads that stays to the end
- `run_of_settlesBeforeCancel` / `run_leaked`: where a run of events ends up
- `deferred_endsCleanly_iff`: exactly which runs clear the interval
-/

namespace ControlPlane

open JsonText (JsStr Value)
open SseUsageScanner AnthropicSse

/-! ## What a client reads of the end -/

/-- The data of a `data:` line. -/
def lineData (line : String) : List String :=
  if JsString.startsWith line "data: " then [String.ofList (line.toList.drop 6)] else []

/-- The data lines of a text, each without its field name. -/
def dataLines (text : String) : List String := (linesOf text).flatMap lineData

/-- A choice that gives a reason to finish. -/
def givesReason (choice : Value) : Bool :=
  match choice.field "finish_reason" with
  | none | some .null => false
  | some _ => true

/-- A frame that finishes a choice. -/
def finishes (frame : Value) : Bool :=
  match frame.field "choices" with
  | some (.arr choices) => choices.any givesReason
  | _ => false

/-- Whether a data line is a chunk that gives a finish reason. -/
def isFinish (data : String) : Bool := (JsonText.parse data.toList).any finishes

/-- Data that neither finishes a choice nor ends the stream. -/
def Continues (data : String) : Prop := isFinish data = false ∧ data ≠ "[DONE]"

/-- One finish frame, then one `[DONE]`, and nothing after it. -/
structure EndsOnce (text : String) : Prop where
  frames : ∃ body finish usage, dataLines text = body ++ finish :: usage ++ ["[DONE]"] ∧
    isFinish finish = true ∧ ∀ data ∈ body ++ usage, Continues data
  last : ∃ before, text = before ++ encodeFrame (.literal "[DONE]")

/-- A blank line has no data. -/
theorem lineData_blank : lineData "" = [] := by decide

/-- A line written as data is read back as that data. -/
theorem lineData_data (data : String) : lineData ("data: " ++ data) = [data] := by
  rw [lineData, if_pos (JsString.startsWith_append _ _), toList_data]
  exact congrArg (fun s => [s]) String.ofList_toList

/-- Whole lines after whole lines: the data lines follow one another. -/
theorem dataLines_append {text more : String} (h : Lines text) (h' : Lines more) :
    dataLines (text ++ more) = dataLines text ++ dataLines more :=
  flatMap_linesOf_append lineData_blank h h'

/-- A frame of one line of data is read as that line. -/
theorem dataLines_encodeFrame {payload : FramePayload} (h : '\n' ∉ payload.data.toList) :
    dataLines (encodeFrame payload) = [payload.data] := by
  rw [encodeFrame_eq, dataLines,
    flatMap_linesOf_textOf lineData_blank (newline_not_mem_frame h), List.flatMap_cons,
    List.flatMap_singleton, lineData_blank, lineData_data]
  rfl

/-- A written object is no `[DONE]`, and finishes what the object finishes. -/
theorem isFinish_object {fields : List (String × Value)}
    (h : JsonText.Canonical (JsonText.object fields)) :
    isFinish (FramePayload.json (JsonText.object fields)).data =
        finishes (JsonText.object fields) ∧
      (FramePayload.json (JsonText.object fields)).data ≠ "[DONE]" := by
  constructor
  · rw [isFinish, FramePayload.data, String.toList_ofList, JsonText.parse_stringify h]
    rfl
  · obtain ⟨body, hbody⟩ := JsonText.stringify_object fields
    intro hdone
    have hhead := congrArg String.toList hdone
    rw [FramePayload.data, hbody, String.toList_ofList] at hhead
    exact absurd (List.cons.inj hhead).1 (by decide)

/-- Whole lines whose data all go on. -/
def Continuing (text : String) : Prop :=
  Lines text ∧ ∀ data ∈ dataLines text, Continues data

/-- A frame of a chunk that does not finish keeps the stream going. -/
theorem continuing_object {fields : List (String × Value)}
    (h : JsonText.Canonical (JsonText.object fields))
    (hgoes : finishes (JsonText.object fields) = false) :
    Continuing (encodeFrame (.json (JsonText.object fields))) := by
  obtain ⟨hfinish, hdone⟩ := isFinish_object h
  refine ⟨lines_json _, ?_⟩
  rw [dataLines_encodeFrame (newline_not_mem_json _)]
  intro data hdata
  rw [List.mem_singleton.mp hdata]
  exact ⟨hfinish.trans hgoes, hdone⟩

/-- The empty text keeps the stream going. -/
theorem continuing_empty : Continuing "" := by
  refine ⟨lines_empty, ?_⟩
  have hnone : dataLines "" = [] := by decide +kernel
  rw [hnone]
  intro data hdata
  cases hdata

/-- Two texts that keep the stream going do so one after the other. -/
theorem Continuing.append {text more : String} (h : Continuing text) (h' : Continuing more) :
    Continuing (text ++ more) := by
  refine ⟨h.1.append h'.1, ?_⟩
  rw [dataLines_append h.1 h'.1]
  intro data hdata
  cases List.mem_append.mp hdata with
  | inl hdata => exact h.2 data hdata
  | inr hdata => exact h'.2 data hdata

/-- And so does any number of them. -/
theorem Continuing.join {pieces : List String} (h : ∀ piece ∈ pieces, Continuing piece) :
    Continuing (String.join pieces) :=
  join_of_append continuing_empty (fun _ _ => Continuing.append) h

/-- A keepalive comment keeps the stream going. -/
theorem continuing_keepalive : Continuing KEEPALIVE := by
  refine ⟨idle_keepalive.1, ?_⟩
  have hnone : dataLines KEEPALIVE = [] := by decide +kernel
  rw [hnone]
  intro data hdata
  cases hdata

/-- An error frame does not finish the stream: it gives no reason. -/
theorem continuing_errorFrame (message : JsStr) :
    Continuing (DeferredStream.errorFrame message) := by
  have hfields : JsonText.Canonical (JsonText.object
      [("message", .str (message.take 200)), ("type", JsonText.text "upstream_error")]) := by
    apply JsonText.canonical_object
    · show (["message", "type"] : List String).Nodup
      decide
    · intro f hf
      simp only [List.mem_cons, List.not_mem_nil, or_false] at hf
      obtain rfl | rfl := hf <;> trivial
  apply continuing_object
  · apply JsonText.canonical_object
    · exact List.nodup_singleton _
    · intro f hf
      rw [List.mem_singleton.mp hf]
      exact hfields
  · -- an error has no choices
    rw [finishes, JsonText.field_object]
    rfl

namespace AnthropicToOpenAIState

variable (state : AnthropicToOpenAIState)

/-- A chunk finishes exactly when one of its choices gives a reason. -/
theorem finishes_chunk (choices : List Value) (more : List (String × Value)) :
    finishes (JsonText.object ([("id", .str state.id),
      ("object", JsonText.text "chat.completion.chunk"), ("created", .num state.created),
      ("model", .str state.model), ("choices", .arr choices)] ++ more)) =
        choices.any givesReason := by
  rw [finishes, JsonText.field_object]
  rfl

/-- A choice with a null reason gives none. -/
theorem givesReason_null (delta : List (String × Value)) :
    givesReason (choice delta .null) = false := by
  rw [givesReason, choice, JsonText.field_object]
  rfl

/-- A choice with a text as its reason gives one. -/
theorem givesReason_text (delta : List (String × Value)) (reason : String) :
    givesReason (choice delta (JsonText.text reason)) = true := by
  rw [givesReason, choice, JsonText.field_object]
  rfl

/-- A chunk of a choice that goes on. -/
theorem continuing_contents (content : List (String × JsStr))
    (h : (content.map Prod.fst).Nodup) : Continuing (encodeFrame
      (state.chunk [choice (content.map fun f => (f.1, .str f.2)) .null] [])) := by
  apply continuing_object
  · exact state.canonical_chunk [] (canonical_contents content h) (by decide)
      (fun f hf => by cases hf)
  · rw [finishes_chunk, List.any_cons, givesReason_null]
    rfl

/-- The opening chunk keeps the stream going. -/
theorem continuing_openChunk : Continuing state.openChunk.2 :=
  state.continuing_contents [("role", Utf16.encode "assistant"), ("content", [])] (by decide)

/-- So does a chunk of text. -/
theorem continuing_textChunk (slice : JsStr) : Continuing (state.textChunk slice) :=
  state.continuing_contents [("content", slice)] (List.nodup_singleton _)

/-- The frame with the counts, if there is one. -/
def usageFrame : String :=
  if state.inputTokens.isSome ∨ state.outputTokens.isSome then
    encodeFrame (state.chunk [] [("usage", state.usage)]) else ""

/-- So does the usage frame. -/
theorem continuing_usageFrame : Continuing state.usageFrame := by
  unfold usageFrame
  split
  next =>
    have husage : ∀ f ∈ [("usage", state.usage)], JsonText.Canonical f.2 := by
      intro f hf
      rw [List.mem_singleton.mp hf]
      exact state.canonical_usage
    apply continuing_object
    · exact state.canonical_chunk _ (fun c hc => by cases hc)
        (show (["id", "object", "created", "model", "choices", "usage"] : List String).Nodup by
          decide) husage
    · rw [finishes_chunk]
      rfl
  next => exact continuing_empty

/-- The frame that finishes the choice. -/
def finishFrame : FramePayload := state.chunk [choice [] (JsonText.text "stop")] []

/-- The finish frame is a finishing chunk. -/
theorem isFinish_finishFrame : isFinish state.finishFrame.data = true := by
  have hchoice : ∀ c ∈ [choice [] (JsonText.text "stop")], JsonText.Canonical c := by
    apply canonical_choice
    · decide
    · intro f hf
      cases hf
    · trivial
  -- the frame is one choice, whose reason is a text
  have hcanonical := state.canonical_chunk [] hchoice (by decide) (fun f hf => by cases hf)
  rw [finishFrame, chunk, (isFinish_object hcanonical).1, finishes_chunk, List.any_cons,
    givesReason_text]
  rfl

/-- The end of a stream: the finish frame, the usage frame, then the marker. -/
theorem finishAndUsage_eq : state.finishAndUsage.2 =
    encodeFrame state.finishFrame ++ state.usageFrame ++ encodeFrame (.literal "[DONE]") := rfl

/-- Whatever went before, the last piece ends the stream. -/
theorem endsOnce_finishAndUsage {body : String} (h : Continuing body) :
    EndsOnce (body ++ state.finishAndUsage.2) := by
  have husage := state.continuing_usageFrame
  have hfinish : '\n' ∉ state.finishFrame.data.toList := newline_not_mem_json _
  have hdone : '\n' ∉ (FramePayload.literal "[DONE]").data.toList := by decide
  have hhead := (lines_frame hfinish).append husage.1
  rw [finishAndUsage_eq]
  constructor
  -- one finish, with the counts between it and the marker
  · refine ⟨dataLines body, state.finishFrame.data, dataLines state.usageFrame, ?_,
      state.isFinish_finishFrame, ?_⟩
    · rw [dataLines_append h.1 (hhead.append (lines_frame hdone)),
        dataLines_append hhead (lines_frame hdone), dataLines_append (lines_frame hfinish) husage.1,
        dataLines_encodeFrame hdone, dataLines_encodeFrame hfinish]
      simp [FramePayload.data]
    · intro data hdata
      cases List.mem_append.mp hdata with
      | inl hdata => exact h.2 data hdata
      | inr hdata => exact husage.2 data hdata
  · exact ⟨body ++ (encodeFrame state.finishFrame ++ state.usageFrame),
      (String.append_assoc ..).symm⟩

end AnthropicToOpenAIState

/-- Joining a list with one more piece at its end. -/
theorem join_concat (pieces : List String) (piece : String) :
    String.join (pieces ++ [piece]) = String.join pieces ++ piece := by simp

/-- What a client reads that stays to the end, whatever the call comes to. -/
theorem endsOnce_deferred (id model : JsStr) (created : Int) (keepalives : Nat)
    (result : Except JsStr DeferredCompletionResult) :
    EndsOnce (String.join (openAIStreamFromDeferredCompletion
      (newAnthropicToOpenAIState id model created) keepalives result)) := by
  generalize hstate : newAnthropicToOpenAIState id model created = state
  have hfinished : state.openChunk.1.finished = false := by
    rw [← hstate]
    rfl
  -- the opening chunk and the keepalives do not end the stream
  have hopening : ∀ piece ∈ state.openChunk.2 :: List.replicate keepalives KEEPALIVE,
      Continuing piece := by
    rw [List.forall_mem_cons]
    refine ⟨state.continuing_openChunk, ?_⟩
    intro piece hpiece
    rw [List.eq_of_mem_replicate hpiece]
    exact continuing_keepalive
  cases result with
  | ok result =>
    rw [openAIStreamFromDeferredCompletion_ok, ← List.append_assoc, ← List.cons_append,
      join_concat]
    apply AnthropicToOpenAIState.endsOnce_finishAndUsage
    apply Continuing.join
    intro piece hpiece
    rw [← List.cons_append] at hpiece
    cases List.mem_append.mp hpiece with
    | inl hpiece => exact hopening piece hpiece
    | inr hpiece =>
      obtain ⟨slice, -, rfl⟩ := List.mem_map.mp hpiece
      exact AnthropicToOpenAIState.continuing_textChunk _ slice
  | error message =>
    -- the error frame is one more piece that does not end it
    have hpieces : openAIStreamFromDeferredCompletion state keepalives (.error message) =
        (state.openChunk.2 :: List.replicate keepalives KEEPALIVE) ++
          [DeferredStream.errorFrame message] ++ [state.openChunk.1.finishAndUsage.2] := by
      rw [List.append_assoc]
      unfold openAIStreamFromDeferredCompletion
      dsimp only
      rw [hfinished, if_neg Bool.false_ne_true]
      rfl
    rw [hpieces, join_concat]
    apply AnthropicToOpenAIState.endsOnce_finishAndUsage
    apply Continuing.join
    intro piece hpiece
    cases List.mem_append.mp hpiece with
    | inl hpiece => exact hopening piece hpiece
    | inr hpiece =>
      rw [List.mem_singleton.mp hpiece]
      exact continuing_errorFrame message

/-! ## Runs -/

/-- Whether an event settles the run. -/
def DeferredEvent.settles : DeferredEvent → Bool
  | .settle _ => true
  | _ => false

/-- The call comes back before the client hangs up, and what it throws can be read. -/
def settlesBeforeCancel : List DeferredEvent → Bool
  | [] => true
  | .tick :: events => settlesBeforeCancel events
  | .cancel :: events => events.all fun event => !event.settles
  | .settle (.rejected none) :: _ => false
  | .settle _ :: _ => true

namespace DeferredStream

/-- Once the call has settled the interval is cleared, and a client that did not hang up
    has read the stream to its one end. -/
structure EndsCleanly (stream : DeferredStream) (events : List DeferredEvent) : Prop where
  cleared : stream.settled = true → stream.timer = false
  ended : stream.settled = true → .cancel ∉ events →
    stream.controller = .closed ∧ EndsOnce (String.join stream.sent)

/-- Open, with the client there: only keepalives have followed the opening frame. -/
def waiting (state : AnthropicToOpenAIState) (keepalives : Nat) : DeferredStream :=
  ⟨state.openChunk.1, false, true, .readable,
    state.openChunk.2 :: List.replicate keepalives KEEPALIVE, false⟩

/-- The client has hung up while the call was out. -/
structure HungUp (stream : DeferredStream) : Prop where
  timer : stream.timer = true
  controller : stream.controller = .cancelled
  settled : stream.settled = false

/-- The call is back and the interval is still armed. -/
structure Leaked (stream : DeferredStream) : Prop where
  timer : stream.timer = true
  settled : stream.settled = true

/-- The call is back and everything is put away. -/
structure Ended (stream : DeferredStream) : Prop where
  closed : stream.closed = true
  timer : stream.timer = false
  controller : stream.controller = .closed
  settled : stream.settled = true
  sent : EndsOnce (String.join stream.sent)

/-! ### Pieces -/

/-- A frame is never empty. -/
theorem encodeFrame_ne_empty (payload : FramePayload) : encodeFrame payload ≠ "" := by
  intro h
  have hlist := congrArg String.toList h
  rw [encodeFrame_eq, textOf, String.toList_ofList] at hlist
  simp at hlist

/-- Nor is an error frame. -/
theorem errorFrame_ne_empty (message : JsStr) : errorFrame message ≠ "" := encodeFrame_ne_empty _

section Open

variable (state : AnthropicToOpenAIState) (timer settled : Bool) (sent : List String)

/-- A frame that a readable stream takes. -/
theorem enqueue_of_open {text : String} (htext : text ≠ "") :
    enqueue ⟨state, false, timer, .readable, sent, settled⟩ text =
      ⟨state, false, timer, .readable, sent ++ [text], settled⟩ := by
  rw [enqueue, if_neg (by simp [htext]), if_pos rfl]

/-- An open stream is sent every piece that is not empty. -/
theorem foldl_enqueue_of_open {pieces : List String} (hpieces : ∀ piece ∈ pieces, piece ≠ "") :
    pieces.foldl enqueue ⟨state, false, timer, .readable, sent, settled⟩ =
      ⟨state, false, timer, .readable, sent ++ pieces, settled⟩ := by
  induction pieces generalizing sent with
  | nil => simp
  | cons piece pieces ih =>
    rw [List.foldl_cons, enqueue_of_open _ _ _ _ (hpieces piece List.mem_cons_self),
      ih _ fun q hq => hpieces q (List.mem_cons_of_mem piece hq), List.append_assoc,
      List.singleton_append]

/-- The end of a stream is not empty. -/
theorem finishAndUsage_ne_empty : state.finishAndUsage.2 ≠ "" := by
  intro h
  have hlist := congrArg String.toList h
  rw [AnthropicToOpenAIState.finishAndUsage_eq, String.toList_append] at hlist
  exact absurd (String.toList_inj.mp (List.append_eq_nil_iff.mp hlist).2)
    (encodeFrame_ne_empty _)

/-- The end of a readable stream. -/
theorem finish_of_open :
    (enqueueFinish ⟨state, false, timer, .readable, sent, settled⟩).finish =
      ⟨state.finishAndUsage.1, true, false, .closed, sent ++ [state.finishAndUsage.2], settled⟩ := by
  unfold enqueueFinish
  dsimp only
  rw [enqueue_of_open _ _ _ _ (finishAndUsage_ne_empty state)]
  rfl

end Open

/-- What an `enqueue` leaves alone. -/
theorem enqueue_frame (stream : DeferredStream) (text : String) :
    (stream.enqueue text).timer = stream.timer ∧
      (stream.enqueue text).controller = stream.controller ∧
      (stream.enqueue text).settled = stream.settled := by
  unfold enqueue
  split
  · exact ⟨rfl, rfl, rfl⟩
  · split <;> exact ⟨rfl, rfl, rfl⟩

/-- After an `enqueue` that the client does not take, the flag is set. -/
theorem enqueue_closed {stream : DeferredStream} (h : stream.controller ≠ .readable) {text : String}
    (htext : text ≠ "") : (stream.enqueue text).closed = true := by
  unfold enqueue
  split
  next hskip => exact hskip.resolve_right htext
  next => rfl

/-- Enqueuing touches neither the timer nor the controller. -/
theorem foldl_enqueue_frame (stream : DeferredStream) (pieces : List String) :
    (pieces.foldl enqueue stream).timer = stream.timer ∧
      (pieces.foldl enqueue stream).controller = stream.controller := by
  induction pieces generalizing stream with
  | nil => exact ⟨rfl, rfl⟩
  | cons piece pieces ih =>
    obtain ⟨htimer, hcontroller, -⟩ := stream.enqueue_frame piece
    obtain ⟨htimer', hcontroller'⟩ := ih (stream.enqueue piece)
    exact ⟨htimer'.trans htimer, hcontroller'.trans hcontroller⟩

/-- With the flag set, `finish` returns at once. -/
theorem finish_of_closed {stream : DeferredStream} (h : stream.closed = true) :
    stream.finish = stream := if_pos h

/-! ### Steps -/

section Steps

variable {state : AnthropicToOpenAIState} {stream : DeferredStream}

/-- A stream starts waiting, with no keepalive sent. -/
theorem start_eq (id model : JsStr) (created : Int) :
    start id model created = waiting (newAnthropicToOpenAIState id model created) 0 := by
  have hopening : (newAnthropicToOpenAIState id model created).openChunk.2 ≠ "" :=
    encodeFrame_ne_empty _
  unfold start
  dsimp only
  rw [enqueue_of_open _ _ _ _ hopening]
  rfl

/-- A tick while waiting sends one keepalive more. -/
theorem waiting_tick (state : AnthropicToOpenAIState) (keepalives : Nat) :
    (waiting state keepalives).step .tick = waiting state (keepalives + 1) := by
  have hkeepalive : KEEPALIVE ≠ "" := by decide
  rw [step_tick, if_pos (by simp [waiting]), waiting, enqueue_of_open _ _ _ _ hkeepalive, waiting,
    List.replicate_succ', List.cons_append]

/-- When the call resolves the interval is cleared, and the client has what a client reads
    that stays to the end. -/
theorem waiting_resolve (state : AnthropicToOpenAIState) (keepalives : Nat)
    (result : DeferredCompletionResult) :
    (waiting state keepalives).resolve result =
      ⟨(state.resolved result).finishAndUsage.1, true, false, .closed,
        openAIStreamFromDeferredCompletion state keepalives (.ok result), false⟩ := by
  -- no frame is empty, so each is enqueued
  have hframes : ∀ piece ∈ (textSlices result.text).map (state.resolved result).textChunk,
      piece ≠ "" := by
    intro piece hpiece
    obtain ⟨slice, -, rfl⟩ := List.mem_map.mp hpiece
    exact encodeFrame_ne_empty _
  show (enqueueFinish (((textSlices result.text).map (state.resolved result).textChunk).foldl
    enqueue ⟨state.resolved result, false, true, .readable,
      state.openChunk.2 :: List.replicate keepalives KEEPALIVE, false⟩)).finish = _
  rw [foldl_enqueue_of_open _ _ _ _ hframes, finish_of_open, openAIStreamFromDeferredCompletion_ok,
    List.cons_append, List.cons_append, List.append_assoc]

/-- A run that throws while waiting closes the stream with the error frame and the end. -/
theorem waiting_reject {state : AnthropicToOpenAIState} (hfresh : state.finished = false)
    (keepalives : Nat) (message : JsStr) :
    (waiting state keepalives).reject message =
      ⟨state.openChunk.1.finishAndUsage.1, true, false, .closed,
        openAIStreamFromDeferredCompletion state keepalives (.error message), false⟩ := by
  -- the stream was only opened, so it has not finished
  have hopened : state.openChunk.1.finished = false := hfresh
  unfold DeferredStream.reject waiting
  dsimp only
  rw [enqueue_of_open _ _ _ _ (errorFrame_ne_empty message)]
  dsimp only
  rw [hopened, if_neg Bool.false_ne_true, finish_of_open]
  unfold openAIStreamFromDeferredCompletion
  dsimp only
  rw [hopened, if_neg Bool.false_ne_true, List.append_assoc]
  rfl

/-- A client that leaves while the stream waits leaves it hung up. -/
theorem waiting_cancel (state : AnthropicToOpenAIState) (keepalives : Nat) :
    HungUp ((waiting state keepalives).step .cancel) := ⟨rfl, rfl, rfl⟩

/-- With the client gone, ticks and another cancel leave the interval armed. -/
theorem HungUp.step {event : DeferredEvent} (h : HungUp stream)
    (hevent : ∀ outcome, event ≠ .settle outcome) : HungUp (stream.step event) := by
  cases event with
  | tick =>
    -- the timer goes on, and what it writes goes nowhere
    obtain ⟨htimer, hcontroller, hsettled⟩ := stream.enqueue_frame KEEPALIVE
    rw [step_tick]
    split
    · exact ⟨htimer.trans h.timer, hcontroller.trans h.controller, hsettled.trans h.settled⟩
    · exact h
  | cancel =>
    rw [step_cancel, h.controller]
    exact ⟨h.timer, rfl, h.settled⟩
  | settle outcome => exact absurd rfl (hevent outcome)

/-- With the client gone the last frame sets the flag, and `finish` does nothing. -/
theorem finish_of_hungUp {stream : DeferredStream} (h : stream.controller ≠ .readable) :
    stream.enqueueFinish.finish.timer = stream.timer := by
  unfold enqueueFinish
  generalize hstream : ({ stream with state := stream.state.finishAndUsage.1 } : DeferredStream) =
    written
  have hclosed : (written.enqueue stream.state.finishAndUsage.2).closed = true := by
    apply enqueue_closed _ (finishAndUsage_ne_empty _)
    rw [← hstream]
    exact h
  rw [finish_of_closed hclosed, (written.enqueue_frame _).1, ← hstream]

/-- A hung-up stream that is settled leaks its timer: nothing clears it afterwards. -/
theorem HungUp.settle (h : HungUp stream) (outcome : RunOutcome) :
    Leaked (stream.step (.settle outcome)) := by
  have hunreadable : stream.controller ≠ .readable := by
    rw [h.controller]
    decide
  have hstep : stream.step (.settle outcome) =
      { stream.continuation outcome with settled := true } := by
    rw [step_settle, h.settled, if_neg Bool.false_ne_true]
  -- every `clearInterval` is past a throw of the closed controller, or never reached
  have htimer : (stream.continuation outcome).timer = true := by
    cases outcome with
    | resolved result =>
      show (enqueueFinish _).finish.timer = true
      generalize hframes : (List.foldl enqueue _ _) = written
      have hframe := hframes ▸ foldl_enqueue_frame _ _
      rw [finish_of_hungUp (by rw [hframe.2]; exact hunreadable), hframe.1]
      exact h.timer
    | rejected message =>
      cases message with
      | none => exact h.timer
      | some message =>
        obtain ⟨hkept, hcontroller, -⟩ := stream.enqueue_frame (errorFrame message)
        have hclosed := enqueue_closed hunreadable (errorFrame_ne_empty message)
        show (DeferredStream.reject _ _).timer = true
        unfold DeferredStream.reject
        dsimp only
        split
        · rw [finish_of_closed hclosed, hkept, h.timer]
        · rw [finish_of_hungUp (by rw [hcontroller]; exact hunreadable), hkept, h.timer]
  rw [hstep]
  exact ⟨htimer, rfl⟩

/-- Nothing that happens later clears a leaked timer. -/
theorem Leaked.step (h : Leaked stream) (event : DeferredEvent) : Leaked (stream.step event) := by
  cases event with
  | tick =>
    obtain ⟨htimer, -, hsettled⟩ := stream.enqueue_frame KEEPALIVE
    rw [step_tick]
    split
    · exact ⟨htimer.trans h.timer, hsettled.trans h.settled⟩
    · exact h
  | cancel => exact ⟨h.timer, h.settled⟩
  -- settled before: nothing clears the timer any more
  | settle outcome =>
    rw [step_settle, if_pos h.settled]
    exact h

/-- What has ended stays as it is. -/
theorem Ended.step (h : Ended stream) (event : DeferredEvent) : stream.step event = stream := by
  cases event with
  | tick => rw [step_tick, if_neg (by simp [h.timer])]
  | cancel =>
    have hkeep : (if stream.controller = .readable then .cancelled else stream.controller) =
        stream.controller := by
      rw [h.controller]
      rfl
    rw [step_cancel, hkeep]
  | settle outcome => rw [step_settle, if_pos h.settled]

/-- While the client is there, a call that comes back puts everything away. -/
theorem waiting_settle (id model : JsStr) (created : Int) (keepalives : Nat) {outcome : RunOutcome}
    (houtcome : outcome ≠ .rejected none) :
    Ended ((waiting (newAnthropicToOpenAIState id model created) keepalives).step
      (.settle outcome)) := by
  have hends := endsOnce_deferred id model created keepalives
  have hfresh : (newAnthropicToOpenAIState id model created).finished = false := rfl
  generalize newAnthropicToOpenAIState id model created = state at hends hfresh ⊢
  rw [step_settle, waiting, if_neg Bool.false_ne_true, ← waiting]
  cases outcome with
  | resolved result =>
    show Ended { (waiting state keepalives).resolve result with settled := true }
    rw [waiting_resolve]
    exact ⟨rfl, rfl, rfl, rfl, hends (.ok result)⟩
  -- a rejection that carries a message ends the stream with it
  | rejected message =>
    cases message with
    | none => exact absurd rfl houtcome
    | some message =>
      show Ended { (waiting state keepalives).reject message with settled := true }
      rw [waiting_reject hfresh]
      exact ⟨rfl, rfl, rfl, rfl, hends (.error message)⟩

end Steps

/-! ### From one step to a run -/

/-- A run is its first event, then the others. -/
theorem run_cons (stream : DeferredStream) (event : DeferredEvent) (events : List DeferredEvent) :
    stream.run (event :: events) = (stream.step event).run events := rfl

/-- An ended stream stays as it is. -/
theorem run_ended {stream : DeferredStream} (h : Ended stream) (events : List DeferredEvent) :
    stream.run events = stream := by
  induction events with
  | nil => rfl
  | cons event events ih => rw [run_cons, h.step event, ih]

/-- A leaked timer stays leaked for the rest of the run. -/
theorem run_leaked {stream : DeferredStream} (h : Leaked stream) (events : List DeferredEvent) :
    Leaked (stream.run events) := by
  induction events generalizing stream with
  | nil => exact h
  | cons event events ih => exact ih (h.step event)

/-- Once the client has hung up, the call that comes back leaks the interval. -/
theorem run_hungUp {stream : DeferredStream} (h : HungUp stream) (events : List DeferredEvent) :
    if events.all fun event => !event.settles then HungUp (stream.run events)
    else Leaked (stream.run events) := by
  induction events generalizing stream with
  | nil => exact h
  | cons event events ih =>
    rw [run_cons, List.all_cons]
    cases event with
    | tick => exact ih (h.step fun _ hsettle => by cases hsettle)
    | cancel => exact ih (h.step fun _ hsettle => by cases hsettle)
    | settle outcome => exact run_leaked (h.settle outcome) events

/-- Where a run from the start ends up: still out or put away when the call is back
    before the client hangs up, with the interval leaked when it is not. -/
theorem run_of_settlesBeforeCancel (id model : JsStr) (created : Int) (keepalives : Nat)
    (events : List DeferredEvent) :
    let stream := (waiting (newAnthropicToOpenAIState id model created) keepalives).run events
    if settlesBeforeCancel events then stream.settled = false ∨ Ended stream else Leaked stream := by
  induction events generalizing keepalives with
  | nil => exact Or.inl rfl
  | cons event events ih =>
    cases event with
    | tick =>
      dsimp only
      rw [run_cons, waiting_tick]
      exact ih (keepalives + 1)
    -- the client is gone: what is left of the run decides whether the call comes back
    | cancel =>
      have hrun := run_hungUp (waiting_cancel (newAnthropicToOpenAIState id model created)
        keepalives) events
      dsimp only
      rw [run_cons, settlesBeforeCancel]
      split at hrun
      next hout => rw [if_pos hout]; exact Or.inl hrun.settled
      next hback => rw [if_neg hback]; exact hrun
    | settle outcome =>
      dsimp only
      rw [run_cons]
      by_cases houtcome : outcome = .rejected none
      · -- the message cannot be read, and nothing of the `catch` is done
        rw [houtcome]
        exact run_leaked ⟨rfl, rfl⟩ events
      · have hended := waiting_settle id model created keepalives houtcome
        have htrue : settlesBeforeCancel (.settle outcome :: events) = true := by
          cases outcome with
          | resolved result => rfl
          | rejected message =>
            cases message with
            | none => exact absurd rfl houtcome
            | some message => rfl
        rw [htrue, if_pos rfl, run_ended hended]
        exact Or.inr hended

/-- A run clears its interval, and brings a client that stays to the one end of the
    stream, iff the call is back before the client hangs up (and its error can be read). -/
theorem deferred_endsCleanly_iff (id model : JsStr) (created : Int) (events : List DeferredEvent) :
    EndsCleanly ((start id model created).run events) events ↔
      settlesBeforeCancel events = true := by
  have hrun := run_of_settlesBeforeCancel id model created 0 events
  rw [start_eq]
  generalize (waiting (newAnthropicToOpenAIState id model created) 0).run events = stream at hrun ⊢
  dsimp only at hrun
  constructor
  -- cancelled first: the timer is never cleared
  · intro h
    by_contra hlate
    rw [if_neg hlate] at hrun
    have hcleared := h.cleared hrun.settled
    rw [hrun.timer] at hcleared
    cases hcleared
  -- settled first: the stream has ended, or the call is still out
  · intro hearly
    rw [if_pos hearly] at hrun
    cases hrun with
    | inl hout =>
      constructor
      · intro hsettled
        rw [hout] at hsettled
        cases hsettled
      · intro hsettled
        rw [hout] at hsettled
        cases hsettled
    | inr hended => exact ⟨fun _ => hended.timer, fun _ _ => ⟨hended.controller, hended.sent⟩⟩

/-- The client hangs up, then the model answers "ok": the interval is never cleared. -/
theorem deferred_cancelled_leaks :
    ¬ EndsCleanly ((start (Utf16.encode "chatcmpl-1") (Utf16.encode "anthropic/claude-fable-5")
        1790000000).run
      [.tick, .cancel, .settle (.resolved ⟨Utf16.encode "ok", some 9, some 4⟩)])
      [.tick, .cancel, .settle (.resolved ⟨Utf16.encode "ok", some 9, some 4⟩)] := by
  intro h
  have hleaked := run_of_settlesBeforeCancel (Utf16.encode "chatcmpl-1")
    (Utf16.encode "anthropic/claude-fable-5") 1790000000 0
    [.tick, .cancel, .settle (.resolved ⟨Utf16.encode "ok", some 9, some 4⟩)]
  rw [← start_eq] at hleaked
  have hcleared := h.cleared hleaked.settled
  rw [hleaked.timer] at hcleared
  cases hcleared

end DeferredStream

end ControlPlane
