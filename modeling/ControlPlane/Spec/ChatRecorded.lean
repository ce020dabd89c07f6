import ControlPlane.Model.Routes.Chat
import Mathlib.Algebra.Order.Field.Rat
import Mathlib.Tactic.Positivity

/-!
# What the chat door records of an answered call

The handler from the runner's result on: the stream's settlements and the exits
of a buffered answer, each with the ledger write it attempts. A body without
readable text is answered before its usage is looked at.

## Key results

- `ChatCall.streamEvent_accounted` / `answerEvent_accounted`: each row is a charge or a gap
- `ChatCall.serve_timeout` / `serve_stream` / `serve_readable`: one write on each exit
- `chat_attempt_iff`: exactly when an answered call is recorded
-/

namespace ControlPlane

/-- The runner did not report a failure of the upstream. -/
def InferenceResult.Answered : InferenceResult → Prop
  | .upstreamError _ _ => False
  | _ => True

/-- A relayed stream ends, in whichever way. -/
def InferenceResult.EndsWith (events : List StreamEvent) : InferenceResult → Prop
  | .stream _ => ∃ event ∈ events, event.termination ≠ none
  | _ => True

/-- A buffered body has text in it. -/
def InferenceResult.Readable : InferenceResult → Prop
  | .ok body _ => ∃ text, extractText body = .ok (some text)
  | _ => True

/-! ## Charges and gaps -/

/-- The counts a charge can rest on, by how they were come by. -/
def ChatCall.counts (call : ChatCall) (events : List StreamEvent) :
    InferenceResult → PriceBasis → Option TokenUsage
  | .ok body _, .measured => extractUsage body
  | .stream _, .measured =>
    (meteredRelay events).head?.bind fun s => extractUsage (.obj [("usage", s.usage)])
  | .stream _, .estimatedOutput =>
    (meteredRelay events).head?.bind fun s =>
      if s.usage.isNull ∧ s.termination = .cancelled then
        some (estimateStreamUsage call.promptTextBytes s.outputTextBytes)
      else none
  | _, _ => none

/-- The price of counts: rounded up when they are measured, down when they are not. -/
def PriceBasis.amount (usage : TokenUsage) (price : TokenPrice) : PriceBasis → Int
  | .measured => (exactMicroUsd usage price).ceil
  | .estimatedOutput => (exactMicroUsd usage price).floor
  | .unpriced => 0

/-- A row that charges for counts, split over the two pools. -/
structure Charged (price : TokenPrice) (basis : PriceBasis) (usage : TokenUsage)
    (event : UsageEvent) : Prop where
  metered : event.metered = true
  priceBasis : event.priceBasis = basis
  inputTokens : event.inputTokens = some usage.inputTokens
  outputTokens : event.outputTokens = some usage.outputTokens
  amount : event.microUsd = basis.amount usage price
  split : event.fromAllowanceMicroUsd + event.fromCreditMicroUsd = event.microUsd
  noReason : event.unmeteredReason = none

/-- A row that charges nothing and says why. -/
structure Gap (event : UsageEvent) : Prop where
  unmetered : event.metered = false
  microUsd : event.microUsd = 0
  fromAllowance : event.fromAllowanceMicroUsd = 0
  fromCredit : event.fromCreditMicroUsd = 0
  reason : ∃ reason, event.unmeteredReason = some reason

/-- The row records the call: with the price of its counts at a good rate, or as a
    gap when there is no such price. -/
def ChatCall.Accounted (call : ChatCall) (result : InferenceResult) (events : List StreamEvent)
    (event : UsageEvent) : Prop :=
  event.requestId = call.requestId ∧
  ((∃ basis usage, call.counts events result basis = some usage ∧
      rateProblem call.price = none ∧ Charged call.price basis usage event) ∨
    (∀ basis usage, call.counts events result basis = some usage →
      rateProblem call.price ≠ none) ∧ Gap event)

/-! ## Prices -/

/-- A price whose rates pass has no negative rate. -/
theorem rates_nonneg {price : TokenPrice} (h : rateProblem price = none) :
    0 ≤ price.inputMicroUsdPerMTok ∧ 0 ≤ price.outputMicroUsdPerMTok := by
  unfold rateProblem at h
  split at h
  · cases h
  next hin =>
    split at h
    · cases h
    next hout =>
      rw [not_or, not_lt] at hin hout
      exact ⟨hin.2, hout.2⟩

theorem exactMicroUsd_nonneg {usage : TokenUsage} {price : TokenPrice}
    (hin : 0 ≤ usage.inputTokens) (hout : 0 ≤ usage.outputTokens)
    (h : rateProblem price = none) : 0 ≤ exactMicroUsd usage price := by
  obtain ⟨hrin, hrout⟩ := rates_nonneg h
  have hi : (0 : Rat) ≤ usage.inputTokens := Int.cast_nonneg hin
  have ho : (0 : Rat) ≤ usage.outputTokens := Int.cast_nonneg hout
  unfold exactMicroUsd
  positivity

/-- A price that is not negative stays so when it is rounded. -/
theorem PriceBasis.amount_nonneg {usage : TokenUsage} {price : TokenPrice}
    (h : 0 ≤ exactMicroUsd usage price) (basis : PriceBasis) : 0 ≤ basis.amount usage price := by
  cases basis with
  | measured =>
    have hle : (0 : Rat) ≤ ((exactMicroUsd usage price).ceil : Rat) := le_trans h Rat.le_ceil
    exact Int.cast_nonneg_iff.mp hle
  | estimatedOutput => exact Rat.le_floor_iff.mpr (by simpa using h)
  | unpriced => exact le_refl 0

theorem tokenCounts_nonneg {input output : Option Json} {usage : TokenUsage}
    (h : tokenCounts input output = some usage) :
    0 ≤ usage.inputTokens ∧ 0 ≤ usage.outputTokens := by
  unfold tokenCounts at h
  split at h
  · split at h
    · cases h
      assumption
    · cases h
  · cases h

/-- Folding reasoning tokens in never lowers a count. -/
theorem le_foldReasoning (outputTokens : Int) (reasoning : Option Json) :
    outputTokens ≤ foldReasoning outputTokens reasoning := by
  unfold foldReasoning
  split
  · split <;> omega
  · omega

/-- Counts that are read are not negative. -/
theorem extractUsage_nonneg {body : Json} {usage : TokenUsage}
    (h : extractUsage body = some usage) : 0 ≤ usage.inputTokens ∧ 0 ≤ usage.outputTokens := by
  unfold extractUsage at h
  split at h
  -- Gemini's own metadata are counts of the same kind
  next gemini hgemini =>
    cases h
    obtain ⟨metadata, -, hmetadata⟩ := Option.bind_eq_some_iff.mp hgemini
    exact tokenCounts_nonneg hmetadata
  next =>
    obtain ⟨object, -, hobject⟩ := Option.bind_eq_some_iff.mp h
    unfold usageCounts at hobject
    obtain ⟨counts, hcounts, rfl⟩ := Option.map_eq_some_iff.mp hobject
    -- the counts are not negative, and reasoning tokens only add
    obtain ⟨hin, hout⟩ := tokenCounts_nonneg hcounts
    exact ⟨hin, le_trans hout (le_foldReasoning _ _)⟩

/-- What `meterResponse` decides, said of the counts and the rates. -/
theorem meterResponse_cases (body : Json) (price : TokenPrice) :
    (∃ usage, extractUsage body = some usage ∧ rateProblem price = none ∧
      meterResponse body price = .metered (PriceBasis.measured.amount usage price) usage) ∨
    ((∀ usage, extractUsage body = some usage → rateProblem price ≠ none) ∧
      ∃ reason, meterResponse body price = .unmetered reason) := by
  unfold meterResponse
  cases husage : extractUsage body with
  | none => exact .inr ⟨by simp, _, rfl⟩
  | some usage =>
    dsimp only
    cases hrate : rateProblem price with
    | none => exact .inl ⟨usage, rfl, rfl, by simp only [priceUsage, hrate]; rfl⟩
    | some problem => exact .inr ⟨by simp, problem, by simp only [priceUsage, hrate]⟩

/-- The same of an estimate. -/
theorem priceEstimatedUsage_cases (usage : TokenUsage) (price : TokenPrice) :
    (rateProblem price = none ∧ priceEstimatedUsage usage price =
      .estimated (PriceBasis.estimatedOutput.amount usage price) usage) ∨
    (rateProblem price ≠ none ∧ ∃ reason, priceEstimatedUsage usage price = .unmetered reason) := by
  unfold priceEstimatedUsage
  cases hrate : rateProblem price with
  | none => exact .inl ⟨rfl, rfl⟩
  | some problem => exact .inr ⟨by simp, problem, rfl⟩

/-! ## Rows -/

namespace ChatCall

variable (call : ChatCall) {events : List StreamEvent} {result : InferenceResult}

/-- A charged row that is built keeps its price and splits it. -/
theorem buildEvent_charged (basis : PriceBasis) {usage : TokenUsage} (gatewayLogId : Option String)
    (periodNow : Option PeriodRow) (h : 0 ≤ basis.amount usage call.price) :
    Charged call.price basis usage (call.buildEvent
      (call.meteredEvent (basis.amount usage call.price) usage basis gatewayLogId) periodNow) := by
  rw [buildEvent_meteredEvent]
  split
  next hfree =>
    -- a price of zero is written without a split
    have hzero : basis.amount usage call.price = 0 := by omega
    exact ⟨rfl, rfl, rfl, rfl, rfl, by rw [UsageEvent.withoutSplit, meteredEvent, hzero]; rfl, rfl⟩
  next => exact ⟨rfl, rfl, rfl, rfl, rfl, (allocateCharge_spec _ _ _ h).2.2.1, rfl⟩

/-- A row with a reason is written as it is. -/
theorem buildEvent_gap (reason : String) (upstreamStatus : Option Int)
    (gatewayLogId : Option String) (periodNow : Option PeriodRow) :
    Gap (call.buildEvent (call.unmeteredEvent reason upstreamStatus gatewayLogId) periodNow) := by
  rw [buildEvent_unmeteredEvent]
  exact ⟨rfl, rfl, rfl, rfl, reason, rfl⟩

/-- Nothing in the built row but its split differs from the row. -/
theorem buildEvent_requestId (event : UsageEvent) (periodNow : Option PeriodRow) :
    (call.buildEvent event periodNow).requestId = event.requestId := by
  unfold buildEvent
  split <;> rfl

/-- A charged row for counts of the call accounts for it. -/
theorem accounted_of_charged {basis : PriceBasis} {usage : TokenUsage}
    (gatewayLogId : Option String) (periodNow : Option PeriodRow)
    (hcounts : call.counts events result basis = some usage)
    (hnonneg : 0 ≤ usage.inputTokens ∧ 0 ≤ usage.outputTokens)
    (hrate : rateProblem call.price = none) : call.Accounted result events (call.buildEvent
      (call.meteredEvent (basis.amount usage call.price) usage basis gatewayLogId) periodNow) := by
  refine ⟨buildEvent_requestId call _ _, .inl ⟨basis, usage, hcounts, hrate, ?_⟩⟩
  -- what rates and counts that are not negative come to is split whole
  apply call.buildEvent_charged basis gatewayLogId periodNow
  exact PriceBasis.amount_nonneg (exactMicroUsd_nonneg hnonneg.1 hnonneg.2 hrate) _

/-- A row with a reason accounts for a call that has no price. -/
theorem accounted_of_gap (reason : String) (upstreamStatus : Option Int)
    (gatewayLogId : Option String) (periodNow : Option PeriodRow)
    (hnone : ∀ basis usage, call.counts events result basis = some usage →
      rateProblem call.price ≠ none) : call.Accounted result events
      (call.buildEvent (call.unmeteredEvent reason upstreamStatus gatewayLogId) periodNow) :=
  ⟨buildEvent_requestId call _ _, .inr ⟨hnone, call.buildEvent_gap _ _ _ _⟩⟩

/-- The row of a buffered answer accounts for it. -/
theorem answerEvent_accounted (body : Json) (gatewayLogId : Option String)
    (periodNow : Option PeriodRow) : call.Accounted (.ok body gatewayLogId) events
      (call.buildEvent (call.answerEvent body gatewayLogId) periodNow) := by
  rcases meterResponse_cases body call.price with ⟨usage, husage, hrate, hmeter⟩ |
    ⟨hnone, reason, hmeter⟩
  · rw [answerEvent, hmeter]
    exact call.accounted_of_charged gatewayLogId periodNow husage
      (extractUsage_nonneg husage) hrate
  · rw [answerEvent, hmeter]
    apply call.accounted_of_gap
    intro basis usage hcounts
    cases basis with
    | measured => exact hnone usage hcounts
    | estimatedOutput => cases hcounts
    | unpriced => cases hcounts

section Settled

variable {settlement : StreamSettlement} {gatewayLogId : Option String}

theorem counts_measured (hrelay : meteredRelay events = [settlement]) :
    call.counts events (.stream gatewayLogId) .measured =
      extractUsage (.obj [("usage", settlement.usage)]) := by
  simp only [counts, hrelay]; rfl

theorem counts_estimatedOutput (hrelay : meteredRelay events = [settlement]) :
    call.counts events (.stream gatewayLogId) .estimatedOutput =
      if settlement.usage.isNull ∧ settlement.termination = .cancelled then
        some (estimateStreamUsage call.promptTextBytes settlement.outputTextBytes) else none := by
  simp only [counts, hrelay]; rfl

/-- A usage that was reported decides the row. -/
theorem streamEvent_of_usage (hnull : settlement.usage ≠ .null) :
    call.streamEvent settlement gatewayLogId =
      match meterUsageObject settlement.usage call.price with
      | .metered microUsd usage => call.meteredEvent microUsd usage .measured gatewayLogId
      | .unmetered reason => call.unmeteredEvent
          (streamUnmeteredReason settlement (some reason)) (some 200) gatewayLogId := by
  unfold streamEvent
  split
  next h => exact absurd h hnull
  next => rfl

/-- Nothing reported and no hang-up: a gap. -/
theorem streamEvent_of_null (hnull : settlement.usage = .null)
    (hcancel : settlement.termination ≠ .cancelled) :
    call.streamEvent settlement gatewayLogId =
      call.unmeteredEvent (streamUnmeteredReason settlement none) (some 200) gatewayLogId := by
  simp only [streamEvent, hnull, hcancel, if_false]

/-- The row of a stream that ended before any usage arrived. -/
theorem streamEvent_accounted_of_null (hrelay : meteredRelay events = [settlement])
    (hnull : settlement.usage = .null) (periodNow : Option PeriodRow) :
    call.Accounted (.stream gatewayLogId) events
      (call.buildEvent (call.streamEvent settlement gatewayLogId) periodNow) := by
  by_cases hcancel : settlement.termination = .cancelled
  · -- nothing was reported and the client hung up: the bytes are priced
    have hestimate : call.counts events (.stream gatewayLogId) .estimatedOutput =
        some (estimateStreamUsage call.promptTextBytes settlement.outputTextBytes) := by
      rw [call.counts_estimatedOutput hrelay, if_pos ⟨by rw [hnull]; rfl, hcancel⟩]
    rcases priceEstimatedUsage_cases
        (estimateStreamUsage call.promptTextBytes settlement.outputTextBytes) call.price with
      ⟨hrate, hprice⟩ | ⟨hrate, reason, hprice⟩
    · simp only [streamEvent, hnull, hcancel, if_true, hprice]
      exact call.accounted_of_charged gatewayLogId periodNow hestimate
        ⟨Int.natCast_nonneg _, Int.natCast_nonneg _⟩ hrate
    · simp only [streamEvent, hnull, hcancel, if_true, hprice]
      exact call.accounted_of_gap _ _ _ _ (fun _ _ _ => hrate)
  · -- any other end without usage is a gap, and no basis has counts
    rw [call.streamEvent_of_null hnull hcancel]
    apply call.accounted_of_gap
    intro basis usage hcounts
    cases basis with
    | measured =>
      rw [call.counts_measured hrelay, hnull] at hcounts
      cases hcounts
    | estimatedOutput =>
      rw [call.counts_estimatedOutput hrelay, if_neg (fun h => hcancel h.2)] at hcounts
      cases hcounts
    | unpriced => cases hcounts

/-- The row of a stream that reported its usage. -/
theorem streamEvent_accounted_of_usage (hrelay : meteredRelay events = [settlement])
    (hnull : settlement.usage ≠ .null) (periodNow : Option PeriodRow) :
    call.Accounted (.stream gatewayLogId) events
      (call.buildEvent (call.streamEvent settlement gatewayLogId) periodNow) := by
  rcases meterResponse_cases (.obj [("usage", settlement.usage)]) call.price with
    ⟨usage, husage, hrate, hmeter⟩ | ⟨hnone, reason, hmeter⟩
  · rw [call.streamEvent_of_usage hnull, meterUsageObject, hmeter]
    apply call.accounted_of_charged gatewayLogId periodNow
    · rw [call.counts_measured hrelay, husage]
    · exact extractUsage_nonneg husage
    · exact hrate
  · rw [call.streamEvent_of_usage hnull, meterUsageObject, hmeter]
    apply call.accounted_of_gap
    intro basis usage hcounts
    cases basis with
    | measured => exact hnone usage (by rw [← call.counts_measured hrelay, hcounts])
    | estimatedOutput =>
      -- an object that arrived is never replaced by an estimate
      rw [call.counts_estimatedOutput hrelay, if_neg] at hcounts
      · cases hcounts
      · rintro ⟨h, -⟩
        cases husage : settlement.usage <;> simp [husage, Json.isNull] at h hnull
    | unpriced => cases hcounts

end Settled

/-- The row of the one settlement of a stream accounts for the call. -/
theorem streamEvent_accounted {settlement : StreamSettlement} (gatewayLogId : Option String)
    (hrelay : meteredRelay events = [settlement]) (periodNow : Option PeriodRow) :
    call.Accounted (.stream gatewayLogId) events
      (call.buildEvent (call.streamEvent settlement gatewayLogId) periodNow) := by
  by_cases hnull : settlement.usage = .null
  · exact call.streamEvent_accounted_of_null hrelay hnull periodNow
  · exact call.streamEvent_accounted_of_usage hrelay hnull periodNow

/-! ## The exits -/

theorem serve_timeout (waitedMs : Nat) (periodNow : Option PeriodRow) :
    ∃ event, (call.serve (.timeout waitedMs) events periodNow).1 = [event] ∧
      call.Accounted (.timeout waitedMs) events event := by
  refine ⟨_, rfl, call.accounted_of_gap _ _ _ _ ?_⟩
  -- a call that timed out has no counts of any basis
  intro basis usage hcounts
  cases basis <;> cases hcounts

theorem serve_stream (gatewayLogId : Option String) (periodNow : Option PeriodRow)
    (hend : ∃ event ∈ events, event.termination ≠ none) :
    ∃ event, (call.serve (.stream gatewayLogId) events periodNow).1 = [event] ∧
      call.Accounted (.stream gatewayLogId) events event := by
  obtain ⟨settlement, hrelay⟩ := meteredRelay_of_end hend
  refine ⟨call.buildEvent (call.streamEvent settlement gatewayLogId) periodNow, ?_,
    call.streamEvent_accounted gatewayLogId hrelay periodNow⟩
  simp only [serve, hrelay, List.map_cons, List.map_nil]

theorem serve_readable {body : Json} {text : String} (gatewayLogId : Option String)
    (periodNow : Option PeriodRow) (h : extractText body = .ok (some text)) :
    ∃ event, (call.serve (.ok body gatewayLogId) events periodNow).1 = [event] ∧
      call.Accounted (.ok body gatewayLogId) events event := by
  refine ⟨call.buildEvent (call.answerEvent body gatewayLogId) periodNow, ?_,
    call.answerEvent_accounted body gatewayLogId periodNow⟩
  simp only [serve, h]

/-- A body without readable text is answered and leaves nothing behind. -/
theorem serve_unreadable {body : Json} (gatewayLogId : Option String)
    (periodNow : Option PeriodRow) (h : ¬ ∃ text, extractText body = .ok (some text)) :
    (call.serve (.ok body gatewayLogId) events periodNow).1 = [] := by
  cases htext : extractText body with
  | error e => simp only [serve, htext]
  | ok text =>
    cases text with
    | none =>
      simp only [serve, htext]
      cases unreadableMessage body <;> rfl
    | some text => exact absurd ⟨text, htext⟩ h

end ChatCall

/-! ## The door -/

/-- An answered call is recorded, in one write that charges what it came to or says
    why it does not, unless it is a body without readable text. -/
theorem chat_attempt_iff (call : ChatCall) (result : InferenceResult) (events : List StreamEvent)
    (periodNow : Option PeriodRow) (hanswered : result.Answered) (hend : result.EndsWith events) :
    (∃ event, (call.serve result events periodNow).1 = [event] ∧
      call.Accounted result events event) ↔ result.Readable := by
  cases result with
  | upstreamError status detail => cases hanswered
  | timeout waitedMs => exact iff_of_true (call.serve_timeout waitedMs periodNow) trivial
  | stream gatewayLogId =>
    exact iff_of_true (call.serve_stream gatewayLogId periodNow hend) trivial
  | ok body gatewayLogId =>
    constructor
    · rintro ⟨event, hwrites, -⟩
      by_contra hunreadable
      rw [call.serve_unreadable gatewayLogId periodNow hunreadable] at hwrites
      cases hwrites
    · rintro ⟨text, htext⟩
      exact call.serve_readable gatewayLogId periodNow htext

/-- A request on a plan of 20 micro-USD a month, at 3 and 15 USD per million tokens. -/
def smallCall : ChatCall :=
  ⟨"req-1", "acct", "client", "model", ⟨"free", "Free", 0, 20, 60, 1000, []⟩, "2026-07",
    ⟨3000000, 15000000⟩, 40, "use-1"⟩

/-- A stream the client hangs up on is charged for what had arrived. -/
theorem chat_attempt_cancelled :
    ∃ event, (smallCall.serve (.stream none) [.chunk "", .cancel, .done] none).1 = [event] ∧
      smallCall.Accounted (.stream none) [.chunk "", .cancel, .done] event := by
  have hend : ∃ event ∈ [StreamEvent.chunk "", .cancel, .done], event.termination ≠ none :=
    ⟨.cancel, by simp, by decide⟩
  exact (chat_attempt_iff smallCall (.stream none) [.chunk "", .cancel, .done] none trivial
    hend).mpr trivial

/-- A body that reports 9 and 4 tokens and stops for a tool call has no text: the call
    is answered and nothing is recorded. -/
theorem chat_tool_call_unrecorded :
    let body := Json.obj
      [("choices", .arr [.obj [("message", .obj [("content", .null)]),
        ("finish_reason", .str "tool_calls")]]),
       ("usage", .obj [("prompt_tokens", .num 9), ("completion_tokens", .num 4)])]
    extractUsage body = some ⟨9, 4⟩ ∧ rateProblem smallCall.price = none ∧
      ¬ ∃ event, (smallCall.serve (.ok body none) [] none).1 = [event] ∧
        smallCall.Accounted (.ok body none) [] event := by
  refine ⟨by decide, by decide, ?_⟩
  rintro ⟨event, hwrites, -⟩
  have hnone : (smallCall.serve (.ok (Json.obj
      [("choices", .arr [.obj [("message", .obj [("content", .null)]),
        ("finish_reason", .str "tool_calls")]]),
       ("usage", .obj [("prompt_tokens", .num 9), ("completion_tokens", .num 4)])]) none)
      [] none).1 = [] := rfl
  rw [hnone] at hwrites
  cases hwrites

end ControlPlane
