import ControlPlane.Model.ChatRequest
import ControlPlane.Model.Doors
import ControlPlane.Model.Stream

/-!
# The chat door after its gates

`src/routes/chat.ts` from the model call on: the request the runner is called with, and
what is recorded and answered for each of its outcomes. A ledger write is an attempt:
`recordQuietly` turns its failure into a flag. The period is the one the store reads when
the row is built.
-/

namespace ControlPlane

/-! ## The call -/

/-- What the gates of the chat door have settled. -/
structure ChatGate where
  requestId : String
  accountId : String
  clientId : String
  plan : Plan
  model : CatalogEntry
  auth : UpstreamAuth

namespace ChatGate

variable (gate : ChatGate) (req : ValidChatRequest)

/-- The cap that is applied, and reported in `prism-max-tokens-applied`. -/
def maxTokens : Int :=
  effectiveMaxTokens req.maxTokens gate.plan.maxOutputTokens gate.model.maxOutputTokens

/-- The request the runner is called with. The retired image field is refused. -/
def runRequest : Except ApiError InferenceRequest :=
  if (req.imageBytes.getD []).length ≠ 0 then
    .error (invalidRequest ("Model \"" ++ gate.model.id ++ "\" does not accept an image field. " ++
      "LLaVA has been removed; use a vision-capable chat model."))
  else
    .ok {
      upstreamModel := gate.model.upstream
      bindingModel := if gate.model.binding then some gate.model.id else none
      api := gate.model.api
      billing := gate.model.billing
      messages := req.messages
      maxTokens := gate.maxTokens req
      temperature := req.temperature
      topP := req.topP
      stream := req.stream
      auth := gate.auth
      metadata := [("account_id", gate.accountId), ("client_id", gate.clientId),
        ("plan_id", gate.plan.id), ("request_id", gate.requestId),
        ("cf_token_id", gate.auth.tokenId)] }

end ChatGate

/-! ## The answer -/

/-- A chat request that has passed its gates. -/
structure ChatCall where
  requestId : String
  accountId : String
  clientId : String
  modelId : String
  plan : Plan
  periodKey : String
  price : TokenPrice
  /-- `promptTextBytes(req.messages)`. -/
  promptTextBytes : Nat
  /-- The id `newId` mints for the row. -/
  useId : String

/-- What the door answers. -/
inductive ChatAnswer where
  | error (error : ApiError) (upstreamStatus : Option Int)
  | stream
  | completion (text : String) (finishReason : Option String) (usage : Option TokenUsage)
  /-- The handler throws. -/
  | threw

/-- The upstream's own finish reason. A first choice of `null` throws. -/
def extractFinishReason (body : Json) : Throws (Option String) :=
  match body.field "choices" with
  | some (.arr (.null :: _)) => .error ⟨⟩
  | some (.arr (choice :: _)) => .ok (choice.strField "finish_reason")
  | _ => .ok none

/-- What the client of a body without readable text is told. -/
def unreadableMessage (body : Json) : Throws String :=
  let plain : Throws String :=
    .ok "The model returned a response this plane could not read as text."
  match body.field "candidates" with
  | some (.arr (candidate :: _)) =>
    match candidate.field "finishReason" with
    | some finish =>
      if finish.truthy then
        finish.toText.map fun text => "The model returned no text (finishReason=" ++ text ++ ")."
      else plain
    | none => plain
  | _ => plain

namespace ChatCall

variable (call : ChatCall)

/-- The row without its price. -/
def baseEvent (upstreamStatus : Option Int) (gatewayLogId : Option String) : UsageEvent where
  id := call.useId
  requestId := call.requestId
  accountId := call.accountId
  clientId := call.clientId
  modelId := call.modelId
  periodKey := call.periodKey
  inputTokens := none
  outputTokens := none
  microUsd := 0
  fromAllowanceMicroUsd := 0
  fromCreditMicroUsd := 0
  metered := false
  priceBasis := .unpriced
  unmeteredReason := none
  upstreamStatus := upstreamStatus
  gatewayLogId := gatewayLogId

/-- A charged row. -/
def meteredEvent (microUsd : Int) (usage : TokenUsage) (priceBasis : PriceBasis)
    (gatewayLogId : Option String) : UsageEvent :=
  { call.baseEvent (some 200) gatewayLogId with
    inputTokens := some usage.inputTokens
    outputTokens := some usage.outputTokens
    microUsd := microUsd
    metered := true
    priceBasis := priceBasis }

/-- A row that says why nothing is charged. -/
def unmeteredEvent (reason : String) (upstreamStatus : Option Int) (gatewayLogId : Option String) :
    UsageEvent :=
  { call.baseEvent upstreamStatus gatewayLogId with unmeteredReason := some reason }

/-- Build a ledger row, splitting a metered charge across allowance then credit. -/
def buildEvent (event : UsageEvent) (periodNow : Option PeriodRow) : UsageEvent :=
  if event.metered = false ∨ event.microUsd ≤ 0 then event.withoutSplit
  else event.withSplit call.plan.monthlyIncludedMicroUsd periodNow

/-- What is not metered is not split. -/
theorem buildEvent_unmeteredEvent (reason : String) (upstreamStatus : Option Int)
    (gatewayLogId : Option String) (periodNow : Option PeriodRow) :
    call.buildEvent (call.unmeteredEvent reason upstreamStatus gatewayLogId) periodNow =
      (call.unmeteredEvent reason upstreamStatus gatewayLogId).withoutSplit :=
  if_pos (Or.inl rfl)

/-- A charge is split over the pools, where there is one. -/
theorem buildEvent_meteredEvent (microUsd : Int) (usage : TokenUsage) (priceBasis : PriceBasis)
    (gatewayLogId : Option String) (periodNow : Option PeriodRow) :
    call.buildEvent (call.meteredEvent microUsd usage priceBasis gatewayLogId) periodNow =
      if microUsd ≤ 0 then (call.meteredEvent microUsd usage priceBasis gatewayLogId).withoutSplit
      else (call.meteredEvent microUsd usage priceBasis gatewayLogId).withSplit
        call.plan.monthlyIncludedMicroUsd periodNow := by
  simp only [buildEvent, meteredEvent, reduceCtorEq, false_or]

end ChatCall

/-- Why a streamed request could not be priced. -/
def streamUnmeteredReason (settlement : StreamSettlement) (meterReason : Option String) : String :=
  match meterReason with
  | some reason => "streamed usage arrived but could not be priced: " ++ reason
  | none =>
    match settlement.termination with
    | .error => "the stream failed (upstream or transport error) before a usage frame arrived; " ++
        "tokens generated up to that point are billed to us and cannot be priced here"
    | .cancelled => "the client cancelled the stream before a usage frame arrived, and the " ++
        "received bytes could not be priced either; see the rate for this model"
    | .complete =>
      if settlement.sawFrames then "the streamed response ended without a usage frame despite " ++
        "stream_options.include_usage being requested"
      else "the streamed response carried no recognizable SSE data frames, so no usage could be read"

namespace ChatCall

variable (call : ChatCall)

/-- The row of a stream that ended: measured, estimated after a cancel, or unpriced. -/
def streamEvent (settlement : StreamSettlement) (gatewayLogId : Option String) : UsageEvent :=
  let unpriced (reason : Option String) :=
    call.unmeteredEvent (streamUnmeteredReason settlement reason) (some 200) gatewayLogId
  match settlement.usage with
  -- no usage arrived
  | .null =>
    if settlement.termination = .cancelled then
      match priceEstimatedUsage
          (estimateStreamUsage call.promptTextBytes settlement.outputTextBytes) call.price with
      | .estimated microUsd usage => call.meteredEvent microUsd usage .estimatedOutput gatewayLogId
      | .unmetered reason => unpriced (some reason)
    else unpriced none
  | usage =>
    match meterUsageObject usage call.price with
    | .metered microUsd usage => call.meteredEvent microUsd usage .measured gatewayLogId
    | .unmetered reason => unpriced (some reason)

/-- The row of a buffered answer. -/
def answerEvent (body : Json) (gatewayLogId : Option String) : UsageEvent :=
  match meterResponse body call.price with
  | .metered microUsd usage => call.meteredEvent microUsd usage .measured gatewayLogId
  | .unmetered reason => call.unmeteredEvent reason (some 200) gatewayLogId

/-- The row of a call that did not answer in time. -/
def timeoutEvent (waitedMs : Nat) : UsageEvent :=
  call.unmeteredEvent ("upstream did not answer within " ++ toString waitedMs ++
    "ms; tokens may have been generated and billed to us before the abort landed") none none

/-- What the client of a buffered answer gets. -/
def completion (text : String) (body : Json) : ChatAnswer :=
  match extractFinishReason body with
  | .error _ => .threw
  | .ok finishReason => .completion text finishReason
      (match meterResponse body call.price with
        | .metered _ usage => some usage
        | .unmetered _ => none)

/-- The rest of `handleChatCompletions` from the runner's result: the ledger writes it
    attempts, and the answer. `events` is what happens to the relayed stream. -/
def serve (result : InferenceResult) (events : List StreamEvent) (periodNow : Option PeriodRow) :
    List UsageEvent × ChatAnswer :=
  match result with
  | .timeout waitedMs => ([call.buildEvent (call.timeoutEvent waitedMs) periodNow],
      .error ⟨.upstreamTimeout, "The model did not answer within " ++ toString waitedMs ++ "ms."⟩
        none)
  | .upstreamError status _ => ([],
      .error ⟨.upstreamError, "The model or gateway failed to serve this request."⟩ status)
  | .stream gatewayLogId => ((meteredRelay events).map fun settlement =>
      call.buildEvent (call.streamEvent settlement gatewayLogId) periodNow, .stream)
  | .ok body gatewayLogId =>
    match extractText body with
    | .error _ => ([], .threw)
    -- answered without a text, which is taken for a failure of the provider
    | .ok none =>
      match unreadableMessage body with
      | .error _ => ([], .threw)
      | .ok message => ([], .error ⟨.upstreamError, message⟩ none)
    | .ok (some text) => ([call.buildEvent (call.answerEvent body gatewayLogId) periodNow],
        call.completion text body)

end ChatCall

end ControlPlane
