import ControlPlane.Model.Period
import ControlPlane.Model.Routes.AdminClients
import ControlPlane.Model.Routes.Account
import ControlPlane.Model.Routes.Chat
import ControlPlane.Model.Routes.NonChat
import ControlPlane.Model.Routes.SttStream

/-!
# The gates of the metered doors

`handleChatCompletions` of `src/routes/chat.ts` up to its model call, and `gateNonChat` of
`src/routes/nonchat.ts`: who asks, what its plan allows, whether there is a rate, whether the
deployment can reach the model, and whether a pool has room. Each refusal is answered where
the source answers it; the first read of the database is the caller's.
-/

namespace ControlPlane

/-- What the gates find a deployment to have. -/
structure Deployment where
  catalog : List PricedEntry
  /-- `ctx.runner`. -/
  runner : Bool
  /-- `ctx.nonChatRunner`. -/
  nonChatRunner : Bool
  /-- The token of `ctx.credentials`, which is a `SharedTokenSource`. -/
  credentials : Option String

namespace Deployment

variable (deployment : Deployment)

/-- The model of an id. -/
def findModel (id : String) : Option PricedEntry := deployment.catalog.find? (·.id = id)

/-- `SharedTokenSource.forAccount`: every account gets the same credential. -/
def forAccount : Option UpstreamAuth :=
  match deployment.credentials with
  | none => none
  | some token => if token = "" then none else some ⟨"shared", token⟩

end Deployment

/-- The name of a modality on the wire. -/
def Modality.text : Modality → String
  | .chat => "chat"
  | .image => "image"
  | .tts => "tts"
  | .stt => "stt"
  | .voice => "voice"
  | .music => "music"
  | .video => "video"

/-- A unit as a message names it. -/
def MeterUnit.text : MeterUnit → String
  | .request => "request"
  | .audioMinute => "audio_minute"
  | .kCharacters => "k_characters"

/-- `promptTextBytes`: the UTF-8 size of what is sent. -/
def promptTextBytes (messages : List ChatTurnInput) : Nat :=
  (messages.map fun m => (TextEncoder.encode m.content).length).sum

/-- `checkRateLimit` on the bucket of an account. -/
def checkInference (accountId : String) (limit : Int) : Script AccessDb RateLimitDecision := do
  let now ← onIdentity nowEpochSeconds
  onIdentity (onRateBuckets (checkRateLimit now (inferenceBucket accountId) limit
    RATE_WINDOW_SECONDS))

/-! ## The chat door -/

/-- The door of a modality, as the chat door names it. -/
def doorHint : Modality → String
  | .image => "POST /v1/images/generations"
  | .tts => "POST /v1/audio/speech"
  | .stt => "POST /v1/audio/transcriptions"
  | .video => "POST /v1/videos/generations"
  | .music => "POST /v1/music/generations"
  | .voice => "GET/WS /v1/stt/stream (Deepgram Flux live mic)"
  | .chat => "no door for this modality"

/-- One chat request, with what the platform mints for it. -/
structure ChatHttp where
  authorization : Option String
  /-- What `readJsonBody` answered. -/
  body : Except ApiError Json
  requestId : String
  /-- `ctx.now`. -/
  nowMs : Int
  /-- The id `newId` mints for the row. -/
  useId : String

/-- What the gates of the chat door settle. -/
structure ChatAdmission where
  gate : ChatGate
  call : ChatCall

namespace ChatHttp

variable (deployment : Deployment) (http : ChatHttp) (req : ValidChatRequest)

/-- The allowlist, the entitlement, and what the model can do. -/
def modelGate (plan : Plan) : Except ApiError PricedEntry :=
  match deployment.findModel req.model with
  | none => .error ⟨.modelNotFound, "Model \"" ++ req.model ++
      "\" is not in this deployment's catalog. Refresh GET /v1/models."⟩
  | some model =>
    if model.modality ≠ .chat then
      .error ⟨.modelUnsupported, "Model \"" ++ model.id ++ "\" is a " ++ model.modality.text ++
        " model. Use " ++ doorHint model.modality ++ ", not /v1/chat/completions."⟩
    else if !entitlesTier plan model.tier then
      .error ⟨.modelNotEntitled, "Plan \"" ++ plan.id ++ "\" does not include " ++
        model.tier.text ++ "-tier models. Refresh GET /v1/models."⟩
    else if req.stream && !model.streaming then
      .error (invalidRequest ("Model \"" ++ model.id ++
        "\" does not stream. Send stream:false, or see GET /v1/models."))
    else if (req.imageBytes.getD []).length ≠ 0 then
      .error (invalidRequest ("Model \"" ++ model.id ++ "\" does not accept an image field. " ++
        "LLaVA has been removed; use a vision-capable chat model."))
    else .ok model

/-- The gateway and the credential source are wired. -/
def wiringGate : Option ApiError :=
  if !deployment.runner then
    some ⟨.unavailable, "No AI Gateway is configured on this deployment, so inference is " ++
      "closed. Requests are refused rather than routed off-gateway."⟩
  else if deployment.credentials.isNone then
    some ⟨.unavailable, "This deployment has no upstream credential configured, so inference is " ++
      "closed rather than attempted unauthenticated."⟩
  else none

/-- The dual-pool spend gate. -/
def balanceError (pools : SpendPools) : Option ApiError :=
  match decideBalance pools with
  | .exhausted credit spent _ => some ⟨.quotaExhausted,
      "This account has no remaining monthly allowance or prepaid credit (" ++ toString spent ++
        " of " ++ toString credit ++ " micro-USD credit spent; allowance exhausted). There is no " ++
        "overage on this plane: wait for the next period or top up credit."⟩
  | .indeterminate _ => some ⟨.unavailable, "This account's credit position could not be " ++
      "established, so the request was refused rather than spent against an unknown balance."⟩
  | .allow _ _ _ => none

/-- What the gates hand on, under the caller's ids. -/
def admission (caller : Caller) (plan : Plan) (model : PricedEntry) (price : Priced TokenPrice)
    (auth : UpstreamAuth) : ChatAdmission where
  gate := {
    requestId := http.requestId
    accountId := caller.account.id
    clientId := caller.client.id
    plan := plan
    model := model.toCatalogEntry
    auth := auth }
  call := {
    requestId := http.requestId
    accountId := caller.account.id
    clientId := caller.client.id
    modelId := model.id
    plan := plan
    periodKey := (periodBounds http.nowMs).key
    price := price.rate
    promptTextBytes := promptTextBytes req.messages
    useId := http.useId }

/-- The balance and the credential. -/
def balanceGate (caller : Caller) (plan : Plan) (model : PricedEntry) (price : Priced TokenPrice) :
    Script AccessDb (Except ApiError ChatAdmission) := do
  let periodBefore ← onMoney (getPeriod caller.account.id (periodBounds http.nowMs).key)
  match balanceError (SttUpgrade.pools caller.account plan periodBefore) with
  | some err => pure (.error err)
  | none =>
    -- the credential comes last, when nothing else can refuse the request
    match deployment.forAccount with
    | none => pure (.error ⟨.unavailable, "An upstream credential for this request could not be " ++
        "obtained, so it was refused rather than run unmetered."⟩)
    | some auth => pure (.ok (http.admission req caller plan model price auth))

/-- The rate of the model, and the wiring. -/
def priceGate (caller : Caller) (plan : Plan) (model : PricedEntry) :
    Script AccessDb (Except ApiError ChatAdmission) := do
  let override ← Script.read fun db => db.modelPrices.getModelPrice model.id
  -- the operator's rate decides where there is one
  match model.chatPriceGate override with
  | .error err => pure (.error err)
  | .ok price =>
    match wiringGate deployment with
    | some err => pure (.error err)
    | none => http.balanceGate deployment req caller plan model price

/-- The rate limit, and what follows it. -/
def rateGate (caller : Caller) (plan : Plan) : Script AccessDb (Except ApiError ChatAdmission) := do
  let rate ← checkInference caller.account.id plan.requestsPerMinute
  -- the request is counted here, also when a later gate refuses it
  if !rate.allowed then
    pure (.error ⟨.rateLimited, "This account is limited to " ++ toString plan.requestsPerMinute ++
      " requests per minute."⟩)
  else
    match modelGate deployment req plan with
    | .error err => pure (.error err)
    | .ok model => http.priceGate deployment req caller plan model

/-- The entitlements of the caller. -/
def planGate (caller : Caller) : Script AccessDb (Except ApiError ChatAdmission) :=
  match planFromRow caller.plan with
  | .error _ => pure (.error ⟨.unavailable, "This account's plan is not usable, so the request " ++
      "was refused rather than served on a guessed entitlement."⟩)
  | .ok plan => http.rateGate deployment req caller plan

/-- The gates from the caller on. -/
def gates (sha256 : List UInt8 → List UInt8) : Script AccessDb (Except ApiError ChatAdmission) := do
  let authed ← requireCaller sha256 http.authorization
  match authed with
  | .error err => pure (.error err)
  | .ok caller => http.planGate deployment req caller

end ChatHttp

/-! ## The non-chat doors -/

/-- One request at a non-chat door, with what the platform mints for it. -/
structure NonChatRequest where
  authorization : Option String
  /-- What `readJsonBody` answered. -/
  body : Except ApiError Json
  /-- The `prefer` header, empty without one. -/
  prefer : String
  origin : String
  requestId : String
  /-- `ctx.now`. -/
  nowMs : Int
  useId : String
  jobId : String

namespace NonChatRequest

variable (deployment : Deployment) (request : NonChatRequest)

/-- The model of the body, at the door of its modality. -/
def modelGate (modality : Modality) (plan : Plan) (raw : Json) : Except ApiError PricedEntry :=
  match requireString raw "model" with
  | none => .error (invalidRequest "\"model\" is required.")
  | some modelId =>
    match deployment.findModel modelId with
    | none => .error ⟨.modelNotFound, "Model \"" ++ modelId ++
        "\" is not in this deployment's catalog. Refresh GET /v1/models."⟩
    | some model =>
      if model.modality ≠ modality then
        .error (invalidRequest ("Model \"" ++ model.id ++ "\" is modality " ++
          model.modality.text ++ "; this door is " ++ modality.text ++ "."))
      else if !DOOR_MODALITIES.contains model.modality then
        .error ⟨.modelUnsupported, "Model \"" ++ model.id ++ "\" (" ++ model.modality.text ++
          ") has no HTTP door on this plane."⟩
      else if !entitlesTier plan model.tier then
        .error ⟨.modelNotEntitled, "Plan \"" ++ plan.id ++ "\" does not include " ++
          model.tier.text ++ "-tier models. Refresh GET /v1/models."⟩
      else .ok model

/-- The gate on what the deployment has. -/
def wiringGate : Option ApiError :=
  if !deployment.nonChatRunner then
    some ⟨.unavailable,
      "No AI Gateway is configured on this deployment, so non-chat inference is closed."⟩
  else if deployment.credentials.isNone then
    some ⟨.unavailable,
      "This deployment has no upstream credential configured, so inference is closed."⟩
  else none

/-- Room in the pools, and for one unit of the rate. -/
def balanceError (pools : SpendPools) (periodKey : String) (unitPrice : UnitPrice) :
    Option ApiError :=
  match decideBalance pools with
  | .exhausted _ _ _ => some ⟨.quotaExhausted, "This account has no remaining monthly allowance " ++
      "or prepaid credit (period " ++ periodKey ++ "). Top up credit to continue."⟩
  | .indeterminate _ => some ⟨.unavailable,
      "This account's balance cannot be read reliably; refusing rather than guessing."⟩
  | .allow _ _ _ =>
    let remaining := remainingAllowanceMicroUsd pools.monthlyIncludedMicroUsd
        pools.allowanceSpentMicroUsd + remainingMicroUsd pools.creditMicroUsd pools.spentMicroUsd
    if 0 < unitPrice.microUsdPerUnit ∧ remaining < unitPrice.microUsdPerUnit then
      some ⟨.quotaExhausted, "Remaining balance " ++ toString remaining ++
        " micro-USD is below this model's unit rate (" ++ toString unitPrice.microUsdPerUnit ++
        " micro-USD per " ++ unitPrice.unit.text ++ ")."⟩
    else none

/-- What the gate hands on, under the caller's ids. -/
def gateOk (caller : Caller) (plan : Plan) (model : PricedEntry) (unitPrice : UnitPrice)
    (auth : UpstreamAuth) : NonChatGateOk where
  requestId := request.requestId
  accountId := caller.account.id
  clientId := caller.client.id
  planId := caller.account.planId
  plan := plan
  model := model.toCatalogEntry
  unitPrice := unitPrice
  auth := auth
  periodKey := (periodBounds request.nowMs).key
  created := request.nowMs / 1000
  useId := request.useId
  jobId := request.jobId

/-- The gate on the account's pools. -/
def balanceGate (caller : Caller) (plan : Plan) (model : PricedEntry) (unitPrice : UnitPrice) :
    Script AccessDb (Except ApiError NonChatGateOk) := do
  let key := (periodBounds request.nowMs).key
  let periodBefore ← onMoney (getPeriod caller.account.id key)
  match balanceError (SttUpgrade.pools caller.account plan periodBefore) key unitPrice with
  | some err => pure (.error err)
  | none =>
    match deployment.forAccount with
    | none => pure (.error ⟨.unavailable,
        "Could not obtain an upstream credential for this account."⟩)
    | some auth => pure (.ok (request.gateOk caller plan model unitPrice auth))

/-- The gate on the model's price. -/
def priceGate (caller : Caller) (plan : Plan) (model : PricedEntry) :
    Script AccessDb (Except ApiError NonChatGateOk) := do
  let priceRow ← Script.read fun db => db.modelPrices.getModelPrice model.id
  match model.unitPriceGate priceRow with
  | .error err => pure (.error err)
  | .ok unitPrice =>
    match wiringGate deployment with
    | some err => pure (.error err)
    | none => request.balanceGate deployment caller plan model unitPrice.rate

/-- The gate on the plan's requests per minute. -/
def rateGate (modality : Modality) (raw : Json) (caller : Caller) (plan : Plan) :
    Script AccessDb (Except ApiError NonChatGateOk) := do
  let rate ← checkInference caller.account.id plan.requestsPerMinute
  if !rate.allowed then
    pure (.error ⟨.rateLimited, "Plan allows " ++ toString plan.requestsPerMinute ++
      " requests per minute."⟩)
  else
    match modelGate deployment modality plan raw with
    | .error err => pure (.error err)
    | .ok model => request.priceGate deployment caller plan model

/-- The plan is read once more than the caller's. -/
def planGate (modality : Modality) (raw : Json) (caller : Caller) :
    Script AccessDb (Except ApiError NonChatGateOk) := do
  let planRow ← onMoney (getPlan caller.account.planId)
  match planRow with
  | none => pure (.error ⟨.unavailable, "This account's plan is not usable, so the request was " ++
      "refused rather than served on a guessed entitlement."⟩)
  | some planRow =>
    match planFromRow planRow with
    | .error reason => pure (.error ⟨.unavailable, reason⟩)
    | .ok plan => request.rateGate deployment modality raw caller plan

/-- `gateNonChat`, of a body that was read. -/
def gate (sha256 : List UInt8 → List UInt8) (modality : Modality) (raw : Json) :
    Script AccessDb (Except ApiError NonChatGateOk) := do
  let authed ← requireCaller sha256 request.authorization
  match authed with
  | .error err => pure (.error err)
  | .ok caller => request.planGate deployment modality raw caller

end NonChatRequest

/-- The modality each door gates. -/
def NonChatDoor.modality : NonChatDoor → Modality
  | .imageGenerations => .image
  | .audioSpeech => .tts
  | .audioTranscriptions => .stt
  | .videoGenerations => .video
  | .musicGenerations => .music

end ControlPlane
