import ControlPlane.Spec.ScannerChunks

/-!
# A relayed stream is settled once

While nothing has ended the stream, the relay is `Open`: nothing is settled, the scanner
has read the chunks that were forwarded, and a pending read finds the queue empty. The
first ending event settles with these chunks and leaves the stream `Over`, which no later
event changes: the completion of a read that was in flight finds a controller that
refuses it, and a `catch` with nothing left to settle.

## Key results

- `RelayWorld.Open.step` / `RelayWorld.Open.ends`: what an event does to an open relay
- `RelayWorld.Over.step`: a relay that is over stays as it is
- `RelayWorld.over_of_first`: the first ending event decides
- `relay_settles`: at most one settlement, by the first ending event, over what was
  forwarded until then
- `relay_refines`: the settlements are those of the relay of texts
-/

namespace ControlPlane

namespace RelayWorld

variable {d : TextDecoder}

/-- How an event ends the stream in this state, if it does: the answer to a pending read,
    or a cancel while the stream is readable. -/
def terminates (world : RelayWorld d) : RelayEvent → Option Termination
  | .source .done => if world.reading then some .complete else none
  | .source .failed => if world.reading then some .error else none
  | .cancel => if world.stream.state = .readable then some .cancelled else none
  | .source (.chunk _) | .pull | .read => none

/-- The chunk an event brings to a stream that is not over. -/
def forwards (world : RelayWorld d) : RelayEvent → List Chunk
  | .source (.chunk value) =>
    if world.reading ∧ world.stream.state = .readable then [value] else []
  | _ => []

/-- The chunks a run of events brings to the stream before it is over. -/
def forwardedFrom (settle : StreamSettlement → Bool) (world : RelayWorld d) :
    List RelayEvent → List Chunk
  | [] => []
  | event :: events =>
    world.forwards event ++ forwardedFrom settle (world.step settle event) events

/-- No event of the run ends the stream. -/
def NoEnd (settle : StreamSettlement → Bool) (world : RelayWorld d) (events : List RelayEvent) :
    Prop :=
  Run.EveryStep (step settle) (fun world event => world.terminates event = none) world events

/-! ### Open and over -/

/-- Nothing has ended the stream yet, and `chunks` were forwarded. -/
structure Open (world : RelayWorld d) (chunks : List Chunk) : Prop where
  settled : world.settled = false
  settlements : world.settlements = []
  readable : world.stream.state = .readable
  closeRequested : world.stream.closeRequested = false
  scanner : world.scanner = SseByteScanner.scan d chunks
  forwarded : world.stream.delivered ++ world.stream.queue = chunks
  /-- A client read only waits where nothing is queued, -/
  requests : 0 < world.stream.readRequests → world.stream.queue = []
  /-- and so does a read of the source. -/
  reading : world.reading = true → world.stream.queue = []

/-- The stream was ended by what this settlement names, after `chunks` were forwarded. -/
structure Over (world : RelayWorld d) (chunks : List Chunk) (settlement : StreamSettlement) :
    Prop where
  settled : world.settled = true
  settlements : world.settlements = [settlement]
  state : world.stream.state =
    if settlement.termination = .error then .errored else .closed
  delivered : world.stream.delivered <+: chunks
  /-- Only a client that cancels leaves chunks behind. -/
  complete : settlement.termination ≠ .cancelled → world.stream.delivered = chunks

/-- A new relay is open. -/
theorem new_open : Open (new : RelayWorld d) [] :=
  ⟨rfl, rfl, rfl, rfl, rfl, rfl, fun _ => rfl, fun _ => rfl⟩

/-- A relay that is over is readable no more. -/
theorem Over.not_readable {world : RelayWorld d} {chunks : List Chunk}
    {settlement : StreamSettlement} (h : world.Over chunks settlement) :
    world.stream.state ≠ .readable := by
  rw [h.state]
  split <;> decide

section step

variable {settle : StreamSettlement → Bool} {world : RelayWorld d} {chunks : List Chunk}

/-- A relay that has settled settles no more. -/
theorem settleOnce_of_settled (h : world.settled = true) (termination : Termination) :
    world.settleOnce settle termination = world := if_pos h

/-- The first settlement is made of what the scanner read. -/
theorem settleOnce_first (settle : StreamSettlement → Bool) (world : RelayWorld d)
    {chunks : List Chunk} (hsettled : world.settled = false) (hnone : world.settlements = [])
    (hscanner : world.scanner = SseByteScanner.scan d chunks) (termination : Termination) :
    (world.settleOnce settle termination).settled = true ∧
    (world.settleOnce settle termination).settlements =
      [(SseByteScanner.scan d chunks).settlement termination] ∧
    (world.settleOnce settle termination).stream = world.stream := by
  unfold RelayWorld.settleOnce
  rw [hsettled, if_neg Bool.false_ne_true, hnone, hscanner]
  exact ⟨rfl, rfl, rfl⟩

/-- With nothing left to settle and no stream left to error, `catch` does nothing. -/
theorem caught_of_over (hsettled : world.settled = true)
    (hstate : world.stream.state ≠ .readable) : world.caught settle = world := by
  have herror : world.stream.error = world.stream := if_neg hstate
  unfold caught
  simp only [settleOnce_of_settled hsettled, herror]

/-- A stream that is over takes no chunk, is not closed again and not errored. -/
theorem resume_of_over (settle : StreamSettlement → Bool) (hsettled : world.settled = true)
    (hstate : world.stream.state ≠ .readable) (result : ReadResult) :
    ∃ scanner, world.resume settle result = { world with scanner := scanner } := by
  have hrefuses : world.stream.canCloseOrEnqueue = false := by
    simp [RelayStream.canCloseOrEnqueue, hstate]
  cases result with
  | failed => exact ⟨world.scanner, caught_of_over hsettled hstate⟩
  -- the stream refuses to close again
  | done =>
    have hclose : world.stream.close = none := by simp [RelayStream.close, hrefuses]
    refine ⟨world.scanner, ?_⟩
    unfold resume
    simp only [settleOnce_of_settled hsettled, hclose]
    exact caught_of_over hsettled hstate
  -- the scanner reads the chunk, the stream refuses it
  | chunk value =>
    have henqueue : world.stream.enqueue value = none := by
      simp [RelayStream.enqueue, hrefuses]
    refine ⟨world.scanner.push value, ?_⟩
    unfold resume
    simp only [henqueue]
    exact caught_of_over hsettled hstate

/-- Nothing changes a relay that is over, but for its scanner. -/
theorem Over.step {settlement : StreamSettlement} (h : world.Over chunks settlement)
    (event : RelayEvent) : (world.step settle event).Over chunks settlement := by
  have hstate := h.not_readable
  cases event with
  | pull =>
    have hpull : world.stream.shouldPull = false := by
      simp [RelayStream.shouldPull, RelayStream.canCloseOrEnqueue, hstate]
    simpa [RelayWorld.step, hpull] using h
  | source result =>
    -- a read that was under way may still return, and is dropped
    by_cases hreading : world.reading = true
    · obtain ⟨scanner, hresume⟩ := resume_of_over settle h.settled hstate result
      simp only [RelayWorld.step, if_pos hreading, hresume]
      exact ⟨h.settled, h.settlements, h.state, h.delivered, h.complete⟩
    · simpa only [RelayWorld.step, if_neg hreading] using h
  | read =>
    have hread : world.stream.read = world.stream := by
      unfold RelayStream.read
      split
      next heq _ => exact absurd heq hstate
      next heq _ => exact absurd heq hstate
      next => rfl
    simpa only [RelayWorld.step, hread] using h
  -- a cancel of a stream that is over is ignored
  | cancel => simpa only [RelayWorld.step, if_neg hstate] using h

/-! ### One event of an open relay -/

/-- An open relay can still write. -/
theorem Open.canCloseOrEnqueue (h : world.Open chunks) :
    world.stream.canCloseOrEnqueue = true := by
  simp [RelayStream.canCloseOrEnqueue, h.closeRequested, h.readable]

/-- A chunk that comes back to an open relay is scanned and handed on. -/
theorem Open.resume_chunk (h : world.Open chunks) (hreading : world.reading = true)
    (value : Chunk) :
    ({ world.resume settle (.chunk value) with reading := false } : RelayWorld d).Open
      (chunks ++ [value]) := by
  have hqueue := h.reading hreading
  have hforwarded : world.stream.delivered = chunks := by
    have := h.forwarded
    rwa [hqueue, List.append_nil] at this
  have hscanner : world.scanner.push value = SseByteScanner.scan d (chunks ++ [value]) := by
    rw [h.scanner, SseByteScanner.scan, SseByteScanner.scan, List.foldl_append]
    rfl
  -- a waiting read takes the chunk, else it is queued
  by_cases hrequests : 0 < world.stream.readRequests
  · simp only [resume, RelayStream.enqueue, h.canCloseOrEnqueue, if_true, if_pos hrequests]
    exact ⟨h.settled, h.settlements, h.readable, h.closeRequested, hscanner,
      by simp [hqueue, hforwarded], fun _ => hqueue, fun hr => absurd hr Bool.false_ne_true⟩
  · simp only [resume, RelayStream.enqueue, h.canCloseOrEnqueue, if_true, if_neg hrequests]
    exact ⟨h.settled, h.settlements, h.readable, h.closeRequested, hscanner,
      by simp [hqueue, hforwarded], fun hr => absurd hr hrequests,
      fun hr => absurd hr Bool.false_ne_true⟩

/-- What does not end an open relay leaves it open. -/
theorem Open.step (h : world.Open chunks) {event : RelayEvent}
    (hopen : world.terminates event = none) :
    (world.step settle event).Open (chunks ++ world.forwards event) := by
  cases event with
  | pull =>
    by_cases hpull : world.reading = false ∧ world.stream.shouldPull
    · -- the stream pulls because a client read waits or because nothing is queued
      have hqueue : world.stream.queue = [] := by
        have hwants := hpull.2
        simp only [RelayStream.shouldPull, h.canCloseOrEnqueue, Bool.true_and, Bool.or_eq_true,
          decide_eq_true_eq, List.isEmpty_iff] at hwants
        exact hwants.elim h.requests id
      simp only [RelayWorld.step, if_pos hpull, forwards, List.append_nil]
      exact ⟨h.settled, h.settlements, h.readable, h.closeRequested, h.scanner, h.forwarded,
        h.requests, fun _ => hqueue⟩
    · simpa only [RelayWorld.step, if_neg hpull, forwards, List.append_nil] using h
  | source result =>
    by_cases hreading : world.reading = true
    · cases result with
      | chunk value =>
        simp only [RelayWorld.step, if_pos hreading, forwards,
          if_pos (And.intro hreading h.readable)]
        exact h.resume_chunk hreading value
      | done => simp [terminates, hreading] at hopen
      | failed => simp [terminates, hreading] at hopen
    · -- an answer that nobody waits for is dropped
      have hforwards : world.forwards (.source result) = [] := by
        cases result <;> simp [forwards, hreading]
      simpa only [RelayWorld.step, if_neg hreading, hforwards, List.append_nil] using h
  | read =>
    simp only [RelayWorld.step, forwards, List.append_nil]
    cases hqueue : world.stream.queue with
    | nil =>
      have hread : world.stream.read =
          { world.stream with readRequests := world.stream.readRequests + 1 } := by
        simp only [RelayStream.read, h.readable, hqueue]
      rw [hread]
      exact ⟨h.settled, h.settlements, h.readable, h.closeRequested, h.scanner, h.forwarded,
        fun _ => hqueue, fun _ => hqueue⟩
    -- a queued chunk is handed out; then no read was waiting
    | cons chunk queue =>
      have hread : world.stream.read =
          { world.stream with
            queue := queue
            delivered := world.stream.delivered ++ [chunk]
            state := .readable } := by
        simp [RelayStream.read, h.readable, hqueue, h.closeRequested]
      have hrequests : ¬ 0 < world.stream.readRequests := by
        intro hr
        rw [h.requests hr] at hqueue
        cases hqueue
      rw [hread]
      refine ⟨h.settled, h.settlements, rfl, h.closeRequested, h.scanner, ?_,
        fun hr => absurd hr hrequests, fun hr => ?_⟩
      · rw [← h.forwarded, hqueue]
        simp
      · have := h.reading hr
        rw [hqueue] at this
        cases this
  | cancel => simp [terminates, h.readable] at hopen

/-- What ends an open relay settles it with what was forwarded. -/
theorem Open.ends (h : world.Open chunks) (settle : StreamSettlement → Bool)
    {event : RelayEvent} {termination : Termination}
    (hend : world.terminates event = some termination) :
    (world.step settle event).Over chunks
      ((SseByteScanner.scan d chunks).settlement termination) := by
  cases event with
  | pull => cases hend
  | read => cases hend
  -- the client has what was handed out, and the queue is dropped
  | cancel =>
    obtain rfl : Termination.cancelled = termination := by
      simpa [terminates, h.readable] using hend
    obtain ⟨hsettled, hsettlements, hstream⟩ :=
      settleOnce_first settle { world with stream := world.stream.cancelled }
        h.settled h.settlements h.scanner .cancelled
    simp only [RelayWorld.step, if_pos h.readable]
    refine ⟨hsettled, hsettlements, by rw [hstream]; rfl, ?_, fun hne => absurd rfl hne⟩
    rw [hstream, ← h.forwarded]
    exact List.prefix_append _ _
  | source result =>
    have hreading : world.reading = true := by
      by_contra hnot
      cases result <;> simp [terminates, hnot] at hend
    -- the read was pending, so nothing is queued
    have hqueue := h.reading hreading
    have hdelivered : world.stream.delivered = chunks := by
      have := h.forwarded
      rwa [hqueue, List.append_nil] at this
    simp only [RelayWorld.step, if_pos hreading]
    cases result with
    | chunk value => cases hend
    | done =>
      obtain rfl : Termination.complete = termination := by
        simpa [terminates, hreading] using hend
      obtain ⟨hsettled, hsettlements, hstream⟩ :=
        settleOnce_first settle world h.settled h.settlements h.scanner .complete
      have hclose : world.stream.close =
          some { world.stream with state := .closed, readRequests := 0 } := by
        simp [RelayStream.close, h.canCloseOrEnqueue, hqueue]
      simp only [resume, hstream, hclose]
      exact ⟨hsettled, hsettlements, rfl, by simp [hdelivered], fun _ => hdelivered⟩
    -- settled before the stream is put into its error state
    | failed =>
      obtain rfl : Termination.error = termination := by
        simpa [terminates, hreading] using hend
      obtain ⟨hsettled, hsettlements, hstream⟩ :=
        settleOnce_first settle world h.settled h.settlements h.scanner .error
      have herror : world.stream.error =
          { world.stream with state := .errored, queue := [], readRequests := 0 } :=
        if_pos h.readable
      simp only [resume, caught, hstream, herror]
      exact ⟨hsettled, hsettlements, rfl, by simp [hdelivered], fun _ => hdelivered⟩

end step

/-! ### Runs -/

section run

variable {settle : StreamSettlement → Bool}

/-- Without an end a relay stays open and forwards its chunks. -/
theorem Open.run {world : RelayWorld d} {chunks : List Chunk} (h : world.Open chunks)
    {events : List RelayEvent} (hopen : NoEnd settle world events) :
    (Run.runAll (RelayWorld.step settle) world events).Open
      (chunks ++ forwardedFrom settle world events) := by
  induction events generalizing world chunks with
  | nil =>
    rw [forwardedFrom, List.append_nil]
    exact h
  | cons event events ih =>
    rw [forwardedFrom, ← List.append_assoc]
    exact ih (h.step hopen.1) hopen.2

/-- A relay that is over stays as it ended. -/
theorem Over.run {world : RelayWorld d} {chunks : List Chunk} {settlement : StreamSettlement}
    (h : world.Over chunks settlement) (events : List RelayEvent) :
    (Run.runAll (RelayWorld.step settle) world events).Over chunks settlement := by
  induction events generalizing world with
  | nil => exact h
  | cons event events ih => exact ih (h.step event)

end run

section silent

variable (settle : StreamSettlement → Bool)

/-- The world without the log of failed settlements. -/
def silent (world : RelayWorld d) : RelayWorld d := { world with failures := [] }

/-- A callback that never throws. -/
def quietly : StreamSettlement → Bool := fun _ => false

/-- Settling, as a relay that reports nothing sees it. -/
theorem settleOnce_silent (world : RelayWorld d) (termination : Termination) :
    (world.settleOnce settle termination).silent =
      world.silent.settleOnce quietly termination := by
  unfold RelayWorld.settleOnce
  by_cases h : world.settled = true
  · rw [if_pos h, if_pos (show world.silent.settled = true from h)]
  · rw [if_neg h, if_neg (show ¬ world.silent.settled = true from h)]
    rfl

/-- A caught error, as a relay that reports nothing sees it. -/
theorem caught_silent (world : RelayWorld d) :
    (world.caught settle).silent = world.silent.caught quietly := by
  unfold caught
  dsimp only
  rw [← settleOnce_silent settle]
  rfl

/-- A resumed read, as a relay that reports nothing sees it. -/
theorem resume_silent (world : RelayWorld d) (result : ReadResult) :
    (world.resume settle result).silent = world.silent.resume quietly result := by
  cases result with
  | failed => exact caught_silent settle world
  | done =>
    unfold resume
    dsimp only
    rw [← settleOnce_silent settle]
    generalize world.settleOnce settle .complete = ended
    rw [show ended.silent.stream = ended.stream from rfl]
    cases ended.stream.close with
    | none => exact caught_silent settle ended
    | some stream => rfl
  | chunk value =>
    unfold resume
    dsimp only
    rw [show world.silent.stream = world.stream from rfl]
    cases world.stream.enqueue value with
    | none => exact caught_silent settle { world with scanner := world.scanner.push value }
    | some stream => rfl

/-- A callback that throws is caught: the relay goes on as if it had not. -/
theorem step_silent (world : RelayWorld d) (event : RelayEvent) :
    (world.step settle event).silent = world.silent.step quietly event := by
  cases event with
  | pull =>
    simp only [step, show world.silent.reading = world.reading from rfl,
      show world.silent.stream = world.stream from rfl]
    split <;> rfl
  | source result =>
    simp only [step, show world.silent.reading = world.reading from rfl]
    split
    · rw [← resume_silent settle]
      rfl
    · rfl
  | read => rfl
  | cancel =>
    simp only [step, show world.silent.stream = world.stream from rfl]
    split
    · exact settleOnce_silent settle { world with stream := world.stream.cancelled } .cancelled
    · rfl

/-- A run, as a relay that reports nothing sees it. -/
theorem runAll_silent (world : RelayWorld d) (events : List RelayEvent) :
    (Run.runAll (step settle) world events).silent =
      Run.runAll (step quietly) world.silent events := by
  induction events generalizing world with
  | nil => rfl
  | cons event events ih => rw [Run.runAll_cons, ih, step_silent, Run.runAll_cons]

/-- Whatever the callback does, the stream is the one of a callback that does nothing. -/
theorem run_stream (events : List RelayEvent) :
    (RelayWorld.run settle events : RelayWorld d).stream =
      (RelayWorld.run quietly events : RelayWorld d).stream := by
  have hsilent := runAll_silent settle (new : RelayWorld d) events
  have hstream : (Run.runAll (step settle) (new : RelayWorld d) events).silent.stream =
      (Run.runAll (step quietly) (new : RelayWorld d).silent events).stream :=
    congrArg RelayWorld.stream hsilent
  exact hstream

end silent

/-- The chunks a relay forwards in a run of events. -/
def forwarded (d : TextDecoder) (settle : StreamSettlement → Bool) (events : List RelayEvent) :
    List Chunk :=
  forwardedFrom settle (new : RelayWorld d) events

/-- What is forwarded over two runs of events. -/
theorem forwardedFrom_append (settle : StreamSettlement → Bool) (world : RelayWorld d)
    (events more : List RelayEvent) : forwardedFrom settle world (events ++ more) =
      forwardedFrom settle world events ++
        forwardedFrom settle (Run.runAll (step settle) world events) more := by
  induction events generalizing world with
  | nil => rfl
  | cons event events ih =>
    rw [List.cons_append, forwardedFrom, ih, forwardedFrom, List.append_assoc, Run.runAll_cons]

/-- An event that ends the stream brings nothing to it. -/
theorem forwards_of_terminates {world : RelayWorld d} {event : RelayEvent}
    {termination : Termination} (hend : world.terminates event = some termination) :
    world.forwards event = [] := by
  cases event with
  | source result =>
    cases result with
    | chunk value => cases hend
    | done => rfl
    | failed => rfl
  | pull => rfl
  | read => rfl
  | cancel => rfl

/-- Nothing is forwarded once the stream is over. -/
theorem Over.forwardedFrom {world : RelayWorld d} {chunks : List Chunk}
    {settlement : StreamSettlement} (h : world.Over chunks settlement)
    (settle : StreamSettlement → Bool) (events : List RelayEvent) :
    RelayWorld.forwardedFrom settle world events = [] := by
  induction events generalizing world with
  | nil => rfl
  | cons event events ih =>
    rw [RelayWorld.forwardedFrom, ih (h.step event), List.append_nil]
    unfold forwards
    split
    · rw [if_neg fun hboth => h.not_readable hboth.2]
    · rfl

/-- The first event that ends the stream leaves it over, and nothing is forwarded after. -/
theorem over_of_first (settle : StreamSettlement → Bool) {before : List RelayEvent}
    {event : RelayEvent} (after : List RelayEvent) {termination : Termination}
    (hopen : NoEnd settle (new : RelayWorld d) before)
    (hend : (run settle before : RelayWorld d).terminates event = some termination) :
    (run settle (before ++ event :: after) : RelayWorld d).Over (forwarded d settle before)
        ((SseByteScanner.scan d (forwarded d settle before)).settlement termination) ∧
      forwarded d settle (before ++ event :: after) = forwarded d settle before := by
  have hbefore : (run settle before : RelayWorld d).Open (forwarded d settle before) :=
    new_open.run hopen
  have hended := hbefore.ends settle hend
  constructor
  · unfold RelayWorld.run
    rw [Run.runAll_append]
    exact hended.run after
  -- the relay is over from its first end on, so nothing more is forwarded
  · have hrest :
        forwardedFrom settle (run settle before : RelayWorld d) (event :: after) = [] := by
      rw [forwardedFrom, forwards_of_terminates hend, List.nil_append]
      exact hended.forwardedFrom settle after
    rw [forwarded, forwardedFrom_append]
    show _ ++ forwardedFrom settle (run settle before : RelayWorld d) (event :: after) = _
    rw [hrest, List.append_nil]
    rfl

/-! ### The relay -/

/-- What a relay does over a run of events. -/
structure Relays (d : TextDecoder) (settle : StreamSettlement → Bool)
    (events : List RelayEvent) : Prop where
  /-- `settle` is called at most once, -/
  once : (run settle events : RelayWorld d).settlements.length ≤ 1
  /-- not before the stream ends, -/
  unsettled : NoEnd settle (new : RelayWorld d) events →
    (run settle events : RelayWorld d).settlements = []
  /-- and by the first event that ends it, over the chunks forwarded until then. -/
  settled : ∀ before event after termination, events = before ++ event :: after →
    NoEnd settle (new : RelayWorld d) before →
    (run settle before : RelayWorld d).terminates event = some termination →
    (run settle events : RelayWorld d).settlements =
      [(SseByteScanner.scan d (forwarded d settle before)).settlement termination]
  /-- The client reads what is forwarded, unchanged and in order, -/
  delivered : (run settle events : RelayWorld d).stream.delivered <+: forwarded d settle events
  /-- what it has not read is queued while the stream is readable, -/
  queued : (run settle events : RelayWorld d).stream.state = .readable →
    (run settle events : RelayWorld d).stream.delivered ++
      (run settle events : RelayWorld d).stream.queue = forwarded d settle events
  /-- and it has read all of a stream that its source ended. -/
  complete : ∀ settlement ∈ (run settle events : RelayWorld d).settlements,
    settlement.termination ≠ .cancelled →
    (run settle events : RelayWorld d).stream.delivered = forwarded d settle events
  /-- The stream fails where the source did. -/
  state : ∀ settlement ∈ (run settle events : RelayWorld d).settlements,
    (run settle events : RelayWorld d).stream.state =
      if settlement.termination = .error then .errored else .closed
  /-- A callback that throws alters nothing of this. -/
  settleThrows : ∀ settle', (run settle' events : RelayWorld d).stream =
    (run settle events : RelayWorld d).stream

end RelayWorld

open RelayWorld in
/-- For every source, callback and order of events, a relay settles once, by the first
    event that ends it, and hands every chunk on. -/
theorem relay_settles (d : TextDecoder) (settle : StreamSettlement → Bool)
    (events : List RelayEvent) : Relays d settle events := by
  have hthrows : ∀ settle', (run settle' events : RelayWorld d).stream =
      (run settle events : RelayWorld d).stream := fun settle' =>
    (run_stream settle' events).trans (run_stream settle events).symm
  -- either nothing ends the stream, or a first event does
  rcases Run.everyStep_or_first (step settle)
      (fun (world : RelayWorld d) event => world.terminates event = none) new events with
    hnoEnd | ⟨before, event, after, heq, hnoEnd, hends⟩
  · have h : (run settle events : RelayWorld d).Open (forwarded d settle events) :=
      new_open.run hnoEnd
    exact {
      once := by rw [h.settlements]; exact Nat.zero_le 1
      unsettled := fun _ => h.settlements
      settled := by
        intro before event after termination heq _ hend
        rw [heq] at hnoEnd
        have hevent := (Run.everyStep_append.mp hnoEnd).2.1
        rw [show (run settle before : RelayWorld d).terminates event = none from hevent] at hend
        cases hend
      delivered := h.forwarded ▸ List.prefix_append _ _
      queued := fun _ => h.forwarded
      complete := by
        intro settlement hmem
        rw [h.settlements] at hmem
        cases hmem
      state := by
        intro settlement hmem
        rw [h.settlements] at hmem
        cases hmem
      settleThrows := hthrows }
  -- everything after the first end finds the relay over
  · obtain ⟨termination, hend⟩ := Option.ne_none_iff_exists'.mp hends
    obtain ⟨h, hforwarded⟩ := over_of_first settle after hnoEnd hend
    rw [← heq] at h hforwarded
    exact {
      once := by rw [h.settlements]; exact Nat.le_refl 1
      unsettled := by
        intro hnone
        rw [heq] at hnone
        exact absurd (Run.everyStep_append.mp hnone).2.1 hends
      settled := by
        intro before event after termination heq hnoEnd hend
        rw [heq]
        exact (over_of_first settle after hnoEnd hend).1.settlements
      delivered := hforwarded ▸ h.delivered
      queued := fun hreadable => absurd hreadable h.not_readable
      complete := by
        intro settlement hmem hne
        rw [h.settlements] at hmem
        obtain rfl := List.mem_singleton.mp hmem
        rw [hforwarded]
        exact h.complete hne
      state := by
        intro settlement hmem
        rw [h.settlements] at hmem
        obtain rfl := List.mem_singleton.mp hmem
        exact h.state
      settleThrows := hthrows }

/-! ### The relay of texts -/

namespace SseByteScanner

variable {d : TextDecoder}

/-- The texts the scanner reads of some chunks, the flush of the decoder the last of them. -/
def texts (d : TextDecoder) (chunks : List Chunk) : List String :=
  (d.decodeAll d.start chunks).2 ++ [d.flush (d.decodeAll d.start chunks).1]

/-- Ending the stream reads what the decoder flushes as one more text. -/
theorem settlement_eq (hd : d.Lawful) (chunks : List Chunk) (termination : Termination) :
    (scan d chunks).settlement termination =
      ((texts d chunks).foldl SseUsageScanner.push .new).settlement termination := by
  cases hdecode : d.decodeAll d.start chunks with
  | mk state decoded =>
    have hscan : scan d chunks = ⟨state, decoded.foldl SseUsageScanner.push .new⟩ := by
      have h := foldl_push (new : SseByteScanner d) chunks
      rw [show (new : SseByteScanner d).decoder = d.start from rfl, hdecode] at h
      exact h
    rw [hscan, texts, hdecode, List.foldl_append, List.foldl_cons, List.foldl_nil]
    -- neither the open line nor what is flushed has a line break
    have hline :
        '\n' ∉ ((decoded.foldl SseUsageScanner.push .new).buffer ++ d.flush state).toList := by
      rw [SseUsageScanner.push_join _ rfl, SseUsageScanner.push_buffer_eq, String.toList_append,
        List.mem_append, not_or]
      exact ⟨SseUsageScanner.newline_not_mem_openLine _, hd.newline_not_mem_flush state⟩
    generalize decoded.foldl SseUsageScanner.push .new = scanner at hline ⊢
    have hpush : scanner.push (d.flush state) = scanner.keep (scanner.buffer ++ d.flush state) := by
      have hopen := SseUsageScanner.getLast?_linesOf (scanner.buffer ++ d.flush state)
      rw [SseUsageScanner.linesOf_of_not_mem hline] at hopen
      rw [SseUsageScanner.push_eq, SseUsageScanner.linesOf_of_not_mem hline,
        ← Option.some.inj hopen]
      rfl
    rw [hpush]
    rfl

end SseByteScanner

/-- The event of the relay of texts that ends as this says. -/
def Termination.event : Termination → StreamEvent
  | .complete => .done
  | .error => .error
  | .cancelled => .cancel

open RelayWorld in
/-- What the relay settles is what the relay of texts settles of the texts of its chunks. -/
theorem relay_refines (d : TextDecoder) (hd : d.Lawful) (settle : StreamSettlement → Bool)
    (before after : List RelayEvent) (event : RelayEvent) (termination : Termination)
    (hopen : NoEnd settle (new : RelayWorld d) before)
    (hend : (run settle before : RelayWorld d).terminates event = some termination) :
    (run settle (before ++ event :: after) : RelayWorld d).settlements =
      meteredRelay ((SseByteScanner.texts d (forwarded d settle before)).map .chunk ++
        [termination.event]) := by
  have htermination : termination.event.termination = some termination := by
    cases termination <;> rfl
  rw [(over_of_first settle after hopen hend).1.settlements, meteredRelay_chunks _ htermination,
    SseByteScanner.settlement_eq hd]

end ControlPlane
