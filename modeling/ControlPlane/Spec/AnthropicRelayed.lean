import ControlPlane.Spec.AnthropicTranslated

/-!
# What a client gets of a pumped source

The pump, the keepalive timer and the client that hangs up share one stream. A comment of
the timer falls between two pushes, and every push is whole lines, so it never parts a
frame: what a client has at any time is a beginning of the translation, and all of it once
the source is over.

## Key results

- `Pumped.step` / `Pumped.ends`: what each event does to a stream that is open
- `run_cases`: a stream after any events, by its first end
- `anthropic_stream_delivered`: what a client has got
-/

namespace ControlPlane

open JsonText (JsStr Value)
open SseUsageScanner AnthropicSse AnthropicSseToOpenAI

/-! ## Parts of a translation -/

theorem AnthropicToOpenAIState.exists_framed_finishOnce (state : AnthropicToOpenAIState) :
    ∃ told, Framed state.finishOnce.2 told := by
  cases hfinished : state.finished with
  | false => exact ⟨_, state.framed_finishOnce hfinished⟩
  | true =>
    rw [finishOnce, if_pos hfinished]
    exact ⟨[], .empty⟩

/-- What a run of events writes has frames. -/
theorem exists_framed_interpret (state : AnthropicToOpenAIState) (events : List Value) :
    ∃ told, Framed (interpret state events).2 told := by
  induction events generalizing state with
  | nil => exact ⟨[], .empty⟩
  | cons event events ih =>
    obtain ⟨rest, hrest⟩ := ih (anthropicPayloadToOpenAIFrames state event).1
    have hone : ∃ told, Framed (anthropicPayloadToOpenAIFrames state event).2 told := by
      -- an event that ends the message writes the end
      cases hstop : isStop event with
      | false =>
        obtain ⟨told, hframed, -⟩ := (state.payload_step hstop).framed
        exact ⟨told, hframed⟩
      | true =>
        rw [state.payload_stop hstop]
        exact state.exists_framed_finishOnce
    obtain ⟨told, hframed⟩ := hone
    exact ⟨told ++ rest, hframed.append hrest⟩

namespace AnthropicSseToOpenAI

theorem wrote_push (transformer : AnthropicSseToOpenAI) (chunk : Chunk) :
    ∃ told, Wrote (transformer.push chunk).2 told := by
  rw [push_eq, consumeLines_eq]
  obtain ⟨told, hframed⟩ := exists_framed_interpret transformer.state _
  exact ⟨told, _, rfl, hframed⟩

theorem wrote_stop (transformer : AnthropicSseToOpenAI) :
    ∃ told, Wrote transformer.stop.2 told := by
  rw [stop_eq]
  dsimp only
  generalize transformer.buffer ++ TextDecoder.utf8.flush transformer.decoder = buffer
  have hread : ∃ told, Framed (consumeLine transformer.state buffer).2 told := by
    rw [← consumeLines_singleton, consumeLines_eq]
    exact exists_framed_interpret _ _
  obtain ⟨told, hframed⟩ := hread
  obtain ⟨ending, hending⟩ := (consumeLine transformer.state buffer).1.exists_framed_finishOnce
  exact ⟨told ++ ending, _, rfl, hframed.append hending⟩

theorem pushAll_concat (transformer : AnthropicSseToOpenAI) (chunks : List Chunk) (chunk : Chunk) :
    transformer.pushAll (chunks ++ [chunk]) =
      (((transformer.pushAll chunks).1.push chunk).1,
        (transformer.pushAll chunks).2 ++ [((transformer.pushAll chunks).1.push chunk).2]) := by
  induction chunks generalizing transformer with
  | nil => rfl
  | cons first chunks ih =>
    rw [List.cons_append, pushAll, pushAll]
    dsimp only
    rw [ih]
    rfl

/-- What has been pushed begins what is written for the source, however it goes on. -/
theorem pushed_prefix (id model : JsStr) (created : Int) {chunks : List Chunk}
    {told : List ChatFrame}
    (h : Wrote ((new (newAnthropicToOpenAIState id model created)).pushAll chunks).2.flatten told)
    (more : List UInt8) :
    told <+: translated (sourceEvents (TextDecoder.utf8.text (chunks.flatten ++ more))) := by
  generalize hstate : newAnthropicToOpenAIState id model created = state at h
  obtain ⟨pushed, hpushed⟩ := wrote_push ((new state).pushAll chunks).1 more
  obtain ⟨ending, hending⟩ := wrote_stop (((new state).pushAll chunks).1.push more).1
  -- the whole source, given as the chunks so far and one more
  have hall := wrote_translate id model created (chunks ++ [more])
  rw [hstate, List.flatten_append, List.flatten_singleton] at hall
  -- its translation begins with what has been pushed
  have hparts : translate state (chunks ++ [more]) =
      ((new state).pushAll chunks).2.flatten ++
        (((new state).pushAll chunks).1.push more).2 ++
          ((((new state).pushAll chunks).1.push more).1.stop).2 := by
    unfold translate
    rw [pushAll_concat]
    simp
  rw [hparts] at hall
  refine ⟨pushed ++ ending, ?_⟩
  rw [← List.append_assoc]
  exact ((h.append hpushed).append hending).unique hall

end AnthropicSseToOpenAI

/-! ## Events -/

/-- How a stream comes to its end. -/
inductive StreamEnd where
  /-- The source is over or has failed. -/
  | source
  | cancel
deriving Repr, DecidableEq

namespace AnthropicStreamEvent

/-- How an event ends the stream, where it does. -/
def ends : AnthropicStreamEvent → Option StreamEnd
  | .source .done | .source .failed => some .source
  | .cancel => some .cancel
  | .tick | .source (.chunk _) => none

/-- The first end among some events. -/
def firstEnd (events : List AnthropicStreamEvent) : Option StreamEnd := events.findSome? ends

/-- The chunks that are read before it. -/
def received : List AnthropicStreamEvent → List Chunk
  | [] => []
  | .tick :: events => received events
  | .source (.chunk value) :: events => value :: received events
  | .source .done :: _ | .source .failed :: _ | .cancel :: _ => []

end AnthropicStreamEvent

open AnthropicStreamEvent

/-! ## The stream -/

namespace AnthropicStream

/-- The controller took what was written for the chunks, with comments between them. -/
def Relays (state : AnthropicToOpenAIState) (chunks : List Chunk) (stream : AnthropicStream) :
    Prop :=
  ∃ told, Wrote stream.sent.flatten told ∧
    Wrote ((new state).pushAll chunks).2.flatten told

/-- The stream is open, and the loop waits for the next read. -/
structure Pumping (state : AnthropicToOpenAIState) (chunks : List Chunk)
    (stream : AnthropicStream) : Prop where
  transformer : stream.transformer = ((new state).pushAll chunks).1
  timer : stream.timer = true
  closed : stream.closed = false
  controller : stream.controller = .readable
  pumping : stream.pumping = true
  relays : stream.Relays state chunks

/-- The stream is over: the timer is off, and the controller takes nothing any more. -/
structure Over (controller : StreamController) (stream : AnthropicStream) : Prop where
  timer : stream.timer = false
  closed : stream.closed = true
  controller : stream.controller = controller

variable {state : AnthropicToOpenAIState} {chunks : List Chunk} {stream : AnthropicStream}

theorem pumping_start (state : AnthropicToOpenAIState) : (start state).Pumping state [] :=
  ⟨rfl, rfl, rfl, rfl, rfl, [], .nil, .nil⟩

/-- An open controller takes a chunk, and an empty one makes no difference. -/
theorem enqueueNonempty_of_readable (stream : AnthropicStream)
    (h : stream.controller = .readable) (chunk : Chunk) :
    ∃ sent, stream.enqueueNonempty chunk = some { stream with sent := sent } ∧
      sent.flatten = stream.sent.flatten ++ chunk := by
  unfold enqueueNonempty
  split
  next hempty => exact ⟨stream.sent, rfl, by rw [hempty, List.append_nil]⟩
  next => exact ⟨stream.sent ++ [chunk], if_pos h, by simp⟩

/-- The timer writes a comment. -/
theorem Pumping.tick (h : stream.Pumping state chunks) :
    (stream.step .tick).Pumping state chunks := by
  have hstep : stream.step .tick =
      { stream with sent := stream.sent ++ [TextEncoder.encode KEEPALIVE] } := by
    rw [step, if_pos ⟨h.timer, by rw [h.closed]; exact Bool.false_ne_true⟩, enqueue,
      if_pos h.controller]
    rfl
  obtain ⟨told, hsent, hpushed⟩ := h.relays
  have hboth := hsent.append .keepalive
  rw [List.append_nil] at hboth
  rw [hstep]
  refine ⟨h.transformer, h.timer, h.closed, h.controller, h.pumping, told, ?_, hpushed⟩
  rw [List.flatten_append, List.flatten_singleton]
  exact hboth

/-- A read brings a chunk, which is translated. -/
theorem Pumping.chunk (h : stream.Pumping state chunks) (value : Chunk) :
    (stream.step (.source (.chunk value))).Pumping state (chunks ++ [value]) := by
  obtain ⟨told, hsent, hpushed⟩ := h.relays
  -- what the transformer makes of the chunk
  obtain ⟨more, hmore⟩ := wrote_push stream.transformer value
  obtain ⟨sent, henqueue, hflatten⟩ := enqueueNonempty_of_readable
    { stream with transformer := (stream.transformer.push value).1 } h.controller
    (stream.transformer.push value).2
  -- an empty output is not enqueued, which leaves the same bytes sent
  have hstep : stream.step (.source (.chunk value)) =
      { stream with
        transformer := (stream.transformer.push value).1
        sent := sent
        pumping := !stream.closed } := by
    rw [step, if_pos h.pumping, resume]
    dsimp only
    rw [henqueue]
  have hconcat := pushAll_concat (new state) chunks value
  rw [← h.transformer] at hconcat
  rw [hstep]
  refine ⟨by rw [hconcat], h.timer, h.closed, h.controller, by rw [h.closed]; rfl,
    told ++ more, ?_, ?_⟩
  · rw [hflatten]
    exact hsent.append hmore
  · rw [hconcat, List.flatten_append, List.flatten_singleton]
    exact hpushed.append hmore

/-- The source is over: the tail is written, and the stream closed. -/
theorem Pumping.ends (h : stream.Pumping state chunks) {event : AnthropicStreamEvent}
    (hends : event.ends = some .source) :
    (stream.step event).Over .closed ∧
      ∃ told, Wrote (stream.step event).sent.flatten told ∧
        Wrote (translate state chunks) told := by
  obtain ⟨told, hsent, hpushed⟩ := h.relays
  obtain ⟨tail, htail⟩ := wrote_stop stream.transformer
  obtain ⟨sent, henqueue, hflatten⟩ := enqueueNonempty_of_readable
    { stream with
      closed := true
      timer := false
      transformer := stream.transformer.stop.1 } h.controller stream.transformer.stop.2
  -- closing writes the tail and stops the timer
  have hclose : stream.closeOpenAI =
      { stream with
        closed := true
        timer := false
        transformer := stream.transformer.stop.1
        sent := sent
        controller := .closed } := by
    rw [closeOpenAI, if_neg (by rw [h.closed]; exact Bool.false_ne_true)]
    dsimp only
    rw [henqueue, Option.getD_some]
    dsimp only
    rw [if_pos h.controller]
  -- both ends of the source close the stream alike
  have hstep : stream.step event = { stream.closeOpenAI with pumping := false } := by
    cases event with
    | tick => cases hends
    | cancel => cases hends
    | source result =>
      rw [step, if_pos h.pumping]
      cases result with
      | chunk value => cases hends
      | done => rfl
      | failed => rfl
  rw [hstep, hclose]
  refine ⟨⟨rfl, rfl, rfl⟩, told ++ tail, ?_, ?_⟩
  · rw [hflatten]
    exact hsent.append htail
  · unfold AnthropicSseToOpenAI.translate
    dsimp only
    rw [← h.transformer]
    exact hpushed.append htail

/-- The client hangs up. -/
theorem Pumping.cancel (h : stream.Pumping state chunks) :
    (stream.step .cancel).Over .cancelled ∧ (stream.step .cancel).sent = stream.sent := by
  rw [step, if_pos h.controller]
  exact ⟨⟨rfl, rfl, rfl⟩, rfl⟩

/-- A stream that is over stays so, and takes nothing, whatever comes back to the loop. -/
theorem Over.keeps {controller : StreamController} (h : stream.Over controller)
    (hover : controller ≠ .readable) (event : AnthropicStreamEvent) :
    (stream.step event).Over controller ∧ (stream.step event).sent = stream.sent := by
  have hclosed : ∀ other : AnthropicStream, other.closed = true → other.closeOpenAI = other :=
    fun other hother => if_pos hother
  have hne : stream.controller ≠ .readable := by rw [h.controller]; exact hover
  cases event with
  | tick =>
    rw [step, if_neg fun hboth => hboth.2 h.closed]
    exact ⟨h, rfl⟩
  | cancel =>
    rw [step, if_neg hne]
    exact ⟨h, rfl⟩
  | source result =>
    rw [step]
    split
    next =>
      cases result with
      | done =>
        rw [resume, hclosed stream h.closed]
        exact ⟨⟨h.timer, h.closed, h.controller⟩, rfl⟩
      | failed =>
        rw [resume, hclosed stream h.closed]
        exact ⟨⟨h.timer, h.closed, h.controller⟩, rfl⟩
      | chunk value =>
        -- a value that was read before the source learned of the cancel
        rw [resume]
        dsimp only
        unfold enqueueNonempty
        split
        next other henqueue =>
          split at henqueue
          next =>
            cases henqueue
            exact ⟨⟨h.timer, h.closed, h.controller⟩, rfl⟩
          next => rw [enqueue, if_neg hne] at henqueue; cases henqueue
        next =>
          rw [hclosed { stream with transformer := (stream.transformer.push value).1 } h.closed]
          exact ⟨⟨h.timer, h.closed, h.controller⟩, rfl⟩
    next => exact ⟨h, rfl⟩

theorem Over.run {controller : StreamController} (h : stream.Over controller)
    (hover : controller ≠ .readable) (events : List AnthropicStreamEvent) :
    (stream.run events).Over controller ∧ (stream.run events).sent = stream.sent := by
  induction events generalizing stream with
  | nil => exact ⟨h, rfl⟩
  | cons event events ih =>
    obtain ⟨hstill, hsent⟩ := h.keeps hover event
    obtain ⟨hrun, hrest⟩ := ih hstill
    exact ⟨hrun, hrest.trans hsent⟩

/-- A stream after some events, by its first end. -/
def Stands (state : AnthropicToOpenAIState) (chunks : List Chunk) (stream : AnthropicStream) :
    Option StreamEnd → Prop
  | none => stream.Pumping state chunks
  | some .source => stream.Over .closed ∧
      ∃ told, Wrote stream.sent.flatten told ∧ Wrote (translate state chunks) told
  | some .cancel => stream.Over .cancelled ∧ stream.Relays state chunks

theorem run_cases (h : stream.Pumping state chunks) (events : List AnthropicStreamEvent) :
    (stream.run events).Stands state (chunks ++ received events) (firstEnd events) := by
  induction events generalizing stream chunks with
  | nil =>
    rw [received, List.append_nil]
    exact h
  | cons event events ih =>
    have hrun : stream.run (event :: events) = (stream.step event).run events := rfl
    rw [hrun]
    cases hends : event.ends with
    -- the event ends the stream: nothing after it is received or sent
    | some ending =>
      have hfirst : firstEnd (event :: events) = some ending := by
        rw [firstEnd, List.findSome?_cons, hends]
      have hnone : received (event :: events) = [] := by
        cases event with
        | tick => cases hends
        -- by the client: what was sent before stands
        | cancel => rfl
        | source result => cases result <;> first | rfl | cases hends
      rw [hfirst, hnone, List.append_nil]
      cases ending with
      -- by the source: the tail of the translation has been written
      | source =>
        obtain ⟨hover, told, hsent, htold⟩ := h.ends hends
        obtain ⟨hstill, hsame⟩ := hover.run (by decide) events
        exact ⟨hstill, told, hsame ▸ hsent, htold⟩
      | cancel =>
        have hcancel : event = .cancel := by
          cases event with
          | tick => cases hends
          | cancel => rfl
          | source result => cases result <;> cases hends
        subst hcancel
        obtain ⟨hover, hbefore⟩ := h.cancel
        obtain ⟨hstill, hsame⟩ := hover.run (by decide) events
        obtain ⟨told, hsent, htold⟩ := h.relays
        exact ⟨hstill, told, (hsame.trans hbefore) ▸ hsent, htold⟩
    -- the stream goes on, by a keepalive or by one chunk more
    | none =>
      have hfirst : firstEnd (event :: events) = firstEnd events := by
        rw [firstEnd, List.findSome?_cons, hends]
        rfl
      rw [hfirst]
      cases event with
      | cancel => cases hends
      | tick => exact ih h.tick
      | source result =>
        cases result with
        | done => cases hends
        | failed => cases hends
        | chunk value =>
          have hrest := ih (h.chunk value)
          rw [List.append_assoc] at hrest
          exact hrest

end AnthropicStream

/-- Whatever happens to the stream and in which order, what a client has got is written
    text, of which the scanner reports its frames. Once the source is over, the frames are
    the translation of what was read of it. Before, and when the client hangs up, they
    begin the translation of every continuation of that; the timer runs while nothing has
    ended, and not after. -/
theorem anthropic_stream_delivered (id model : JsStr) (created : Int)
    (events : List AnthropicStreamEvent) :
    let stream := (AnthropicStream.start (newAnthropicToOpenAIState id model created)).run events
    let got := TextDecoder.utf8.text stream.sent.flatten
    let source := (received events).flatten
    reportOf got = reportOfFrames (chatFrames got) ∧
      stream.timer = (firstEnd events).isNone ∧
      match firstEnd events with
      | some .source => chatFrames got = translated (sourceEvents (TextDecoder.utf8.text source)) ∧
          stream.controller = .closed
      | some .cancel | none => ∀ more, chatFrames got <+:
          translated (sourceEvents (TextDecoder.utf8.text (source ++ more))) := by
  intro stream got source
  have hstands := AnthropicStream.run_cases (AnthropicStream.pumping_start
    (newAnthropicToOpenAIState id model created)) events
  rw [List.nil_append] at hstands
  -- a stream that has not closed holds a beginning of the translation
  have hrelays (h : stream.Relays (newAnthropicToOpenAIState id model created)
      (received events)) : reportOf got = reportOfFrames (chatFrames got) ∧
        ∀ more, chatFrames got <+:
          translated (sourceEvents (TextDecoder.utf8.text (source ++ more))) := by
    obtain ⟨told, hsent, hpushed⟩ := h
    obtain ⟨hread, hreport⟩ := hsent.read
    rw [hread]
    exact ⟨hreport, pushed_prefix id model created hpushed⟩
  -- no end yet, an end of the source, or a cancel
  cases hfirst : firstEnd events with
  | none =>
    rw [hfirst] at hstands
    obtain ⟨hreport, hbegins⟩ := hrelays hstands.relays
    exact ⟨hreport, hstands.timer, hbegins⟩
  | some ending =>
    rw [hfirst] at hstands
    cases ending with
    | source =>
      obtain ⟨hover, told, hsent, htold⟩ := hstands
      obtain ⟨hread, hreport⟩ := hsent.read
      rw [show chatFrames got = told from hread]
      exact ⟨hreport, hover.timer,
        htold.unique (wrote_translate id model created (received events)), hover.controller⟩
    | cancel =>
      obtain ⟨hover, hgot⟩ := hstands
      obtain ⟨hreport, hbegins⟩ := hrelays hgot
      exact ⟨hreport, hover.timer, hbegins⟩

end ControlPlane
