import ControlPlane.Model.Auth
import ControlPlane.Model.Balance
import ControlPlane.Model.Clock
import ControlPlane.Model.Period
import ControlPlane.Model.SttHandoff

/-!
# Opening a speech session

`src/routes/stt-stream.ts`: the one-time tickets a browser opens its socket with, the two
ways an upgrade is authenticated, and the gates it passes before the session is handed over.
-/

namespace ControlPlane

/-- What every ticket starts with. -/
def STT_TICKET_PREFIX : String := "stt"

/-- The protocol of the socket. -/
def STT_WS_PROTOCOL : String := "prism.v1"

/-- How long a ticket is good for. -/
def STT_TICKET_TTL_SEC : Int := 60

/-- Parse a plaintext ticket (`stt_<secret>`). -/
def parseSttTicket (raw : String) : Option String :=
  match splitFirst '_' raw.toList with
  | none => none
  | some (first, secret) =>
    if first ≠ STT_TICKET_PREFIX.toList then none
    else if !isSecret secret then none
    else some raw

/-- A ticket of its secret. -/
def formatSttTicket (secret : String) : String := STT_TICKET_PREFIX ++ "_" ++ secret

/-- How an upgrade is authenticated. -/
inductive SttUpgradeAuth where
  | clientKey (bearer : String)
  | sttTicket (ticket : String)
deriving Repr, DecidableEq

/-- The credential of an upgrade: a client key as bearer, or else a ticket behind the
    protocol's name. A key among the protocols is not taken. -/
def authFromSttUpgrade (authorization protocol : Option String) : Option SttUpgradeAuth :=
  match bearerFromRequest authorization with
  -- a bearer decides alone, even one that is no client key
  | some bearer => (parseClientKey bearer).map fun _ => .clientKey bearer
  | none =>
    -- no bearer: the protocol header, in order
    let parts := ((JsString.split (protocol.getD "") ',').map JsString.trim).filter (· ≠ "")
    match parts with
    | first :: second :: _ =>
      if first = STT_WS_PROTOCOL ∧ (parseSttTicket second).isSome then some (.sttTicket second)
      else none
    | _ => none

/-! ## Tickets -/

/-- The answer to a new ticket. -/
structure CreateSttSessionResponse where
  ticket : String
  expiresAt : Int
  expiresIn : Int
  protocol : String
deriving Repr, DecidableEq

section routes

variable (digests : Media.Digests)

/-- POST /v1/stt/sessions, with the secret it mints. -/
def handleCreateSttSession (authorization : Option String) (nowMs : Int) (secret : String) :
    Script AccessDb (Except ApiError CreateSttSessionResponse) := do
  let authed ← requireCaller digests.sha256 authorization
  match authed with
  | .error err => pure (.error err)
  | .ok caller =>
    let ticket := formatSttTicket secret
    let expiresAt := toISOString (nowMs + STT_TICKET_TTL_SEC * 1000)
    let created ← createSttTicket ⟨sha256Hex digests.sha256 ticket, caller.account.id,
      caller.client.id, expiresAt⟩
    match created with
    | .error _ => pure (.error ⟨.internal, "An unexpected error occurred."⟩)
    | .ok () => pure (.ok ⟨ticket, expiresAt, STT_TICKET_TTL_SEC, STT_WS_PROTOCOL⟩)

/-- The plan of the account of a ticket. -/
def ticketPlan (client : ClientRow) (account : AccountRow) :
    Script AccessDb (Except ApiError Caller) := do
  let plan ← onMoney (getPlan account.planId)
  match plan with
  | none => pure (.error ⟨.unavailable, "This client resolves to a plan that is not configured."⟩)
  | some plan => pure (.ok ⟨client, account, plan⟩)

/-- The account of a ticket whose client is alive. -/
def ticketAccount (ticket : ConsumedTicket) (client : ClientRow) :
    Script AccessDb (Except ApiError Caller) := do
  let account ← onMoney (getAccount ticket.accountId)
  match account with
  | none => pure (.error ⟨.unavailable, "This client resolves to an account that is not configured."⟩)
  | some account =>
    if account.suspendedAt.isSome then pure (.error ⟨.forbidden, "This account is suspended."⟩)
    else ticketPlan client account

/-- The live client of a ticket: what was so when it was minted is read again. -/
def ticketClient (ticket : ConsumedTicket) (client : Option ClientRow) :
    Script AccessDb (Except ApiError Caller) :=
  match client with
  | none => pure (.error ⟨.unauthenticated, "That STT session ticket is not valid."⟩)
  | some client =>
    if client.accountId ≠ ticket.accountId then
      pure (.error ⟨.unauthenticated, "That STT session ticket is not valid."⟩)
    else if client.revokedAt.isSome then pure (.error ResolveFailure.revoked.response)
    else ticketAccount ticket client

/-- The rest of the ticket path from what `consumeSttTicket` returned. -/
def ticketConsumed (ticket : Option ConsumedTicket) : Script AccessDb (Except ApiError Caller) :=
  match ticket with
  | none => pure (.error ⟨.unauthenticated, "That STT session ticket is not valid. Tickets are " ++
      "single-use and expire quickly; mint a new one via POST /v1/stt/sessions."⟩)
  | some ticket => do
    let client ← getAccessClient ticket.clientId
    ticketClient ticket client

/-- The caller of an upgrade. -/
def resolveSttCaller (auth : SttUpgradeAuth) : Script AccessDb (Except ApiError Caller) :=
  match auth with
  | .clientKey bearer => do
    let resolved ← resolveClient digests.sha256 (some ("Bearer " ++ bearer))
    pure (resolved.mapError ResolveFailure.response)
  | .sttTicket ticket => do
    let consumed ← consumeSttTicket (sha256Hex digests.sha256 ticket)
    ticketConsumed consumed

/-! ## The upgrade -/

/-- One upgrade request, and what its deployment has. -/
structure SttUpgrade where
  authorization : Option String
  protocol : Option String
  /-- `ctx.now`. -/
  nowMs : Int
  requestId : String
  /-- `STT_SESSION` and `AI` are bound. -/
  sessionBound : Bool
  aiBound : Bool
  /-- `CF_AIG_TOKEN`. -/
  aigToken : Option String
deriving DecidableEq

namespace SttUpgrade

variable (req : SttUpgrade) (catalog : Catalog)

/-- The two pools of the caller against its plan. -/
def pools (account : AccountRow) (plan : Plan) (period : Option PeriodRow) : SpendPools :=
  ⟨account.creditMicroUsd, account.spentMicroUsd, plan.monthlyIncludedMicroUsd,
    (period.map (·.allowanceSpentMicroUsd)).getD 0⟩

/-- Whether one audio minute fits. -/
def balanceError (pools : SpendPools) (unitPrice : UnitPrice) : Option ApiError :=
  match decideBalance pools with
  | .exhausted _ _ _ => some ⟨.quotaExhausted,
      "No remaining monthly allowance or prepaid credit for a voice session."⟩
  | .indeterminate _ => some ⟨.unavailable, "Account balance cannot be read reliably."⟩
  | .allow _ _ _ =>
    let remaining := remainingAllowanceMicroUsd pools.monthlyIncludedMicroUsd
        pools.allowanceSpentMicroUsd + remainingMicroUsd pools.creditMicroUsd pools.spentMicroUsd
    if 0 < unitPrice.microUsdPerUnit ∧ remaining < unitPrice.microUsdPerUnit then
      some ⟨.quotaExhausted, "Remaining balance " ++ toString remaining ++
        " micro-USD is below one audio minute (" ++ toString unitPrice.microUsdPerUnit ++ ")."⟩
    else none

/-- The claims of the handoff for a caller. -/
def claimsFor (caller : Caller) : HandoffClaims where
  accountId := caller.account.id
  clientId := caller.client.id
  planId := caller.account.planId
  requestId := req.requestId
  modelId := FLUX_STT_MODEL
  exp := (Number.ofRat (req.nowMs / 1000 : Int)).add (Number.ofRat STT_HANDOFF_TTL_SEC)

/-- Sign the handoff of a caller that passed the gates. -/
def handOff (caller : Caller) (acceptProtocol : Option String) : Except ApiError SignedHandoff :=
  match requireHandoffSecret req.aigToken with
  | none => .error ⟨.unavailable, "CF_AIG_TOKEN is required to sign the STT session handoff."⟩
  | some secret =>
    .ok ⟨req.claimsFor caller, signSttHandoff digests secret (req.claimsFor caller), acceptProtocol⟩

/-- The gate on the balance, and the handoff. -/
def balanceGate (caller : Caller) (plan : Plan) (unitPrice : UnitPrice)
    (acceptProtocol : Option String) : Script AccessDb (Except ApiError SignedHandoff) := do
  let period ← onMoney (getPeriod caller.account.id (periodBounds req.nowMs).key)
  match balanceError (pools caller.account plan period) unitPrice with
  | some err => pure (.error err)
  | none => pure (req.handOff digests caller acceptProtocol)

/-- The rate limit of the account. -/
def rateGate (caller : Caller) (plan : Plan) (unitPrice : UnitPrice)
    (acceptProtocol : Option String) : Script AccessDb (Except ApiError SignedHandoff) := do
  let now ← onIdentity nowEpochSeconds
  let rate ← onIdentity (onRateBuckets (checkRateLimit now (inferenceBucket caller.account.id)
    plan.requestsPerMinute RATE_WINDOW_SECONDS))
  if rate.allowed then req.balanceGate digests caller plan unitPrice acceptProtocol
  else pure (.error ⟨.rateLimited, "Plan allows " ++ toString plan.requestsPerMinute ++
    " requests per minute."⟩)

/-- The stored rate of the model. -/
def priceGate (caller : Caller) (plan : Plan) (entry : CatalogEntry)
    (acceptProtocol : Option String) : Script AccessDb (Except ApiError SignedHandoff) := do
  let priceRow ← Script.read fun db => db.modelPrices.getModelPrice entry.id
  match resolveUnitPrice entry (priceRow.bind (·.unitMicroUsd)) with
  | none => pure (.error ⟨.modelUnpriced, "Model \"" ++ entry.id ++
      "\" has no unit rate. Set unit_micro_usd via POST /admin/model-prices."⟩)
  | some unitPrice => req.rateGate digests caller plan unitPrice acceptProtocol

/-- The gates of a caller that resolved. -/
def gates (caller : Caller) (acceptProtocol : Option String) :
    Script AccessDb (Except ApiError SignedHandoff) :=
  match planFromRow caller.plan with
  | .error reason => pure (.error ⟨.unavailable, reason⟩)
  | .ok plan =>
    match catalog.findModel FLUX_STT_MODEL with
    | none => pure (.error ⟨.modelNotFound,
        "Model \"" ++ FLUX_STT_MODEL ++ "\" is not in the catalog."⟩)
    | some entry =>
      if !entitlesTier plan entry.tier then
        pure (.error ⟨.modelNotEntitled, "Plan \"" ++ plan.id ++ "\" does not include " ++
          (match entry.tier with | .standard => "standard" | .premium => "premium") ++
          "-tier models."⟩)
      else req.priceGate digests caller plan entry acceptProtocol

/-- The protocol the answer names, if the browser's path was taken. -/
def acceptProtocol : SttUpgradeAuth → Option String
  | .clientKey _ => none
  | .sttTicket _ => some STT_WS_PROTOCOL

/-- `handleSttStreamUpgrade`, up to the request it forwards. -/
def handle : Script AccessDb (Except ApiError SignedHandoff) :=
  if !req.sessionBound then
    pure (.error ⟨.unavailable, "STT stream is not configured on this deployment (missing " ++
      "STT_SESSION Durable Object binding)."⟩)
  else if !req.aiBound then
    pure (.error ⟨.unavailable, "Deepgram Flux requires the Worker AI binding. Add [ai] binding " ++
      "= \"AI\" to wrangler config."⟩)
  else
    match authFromSttUpgrade req.authorization req.protocol with
    | none => pure (.error ⟨.unauthenticated, "A valid credential is required: Authorization: " ++
        "Bearer pcp_… (native), or Sec-WebSocket-Protocol: prism.v1, stt_… after POST " ++
        "/v1/stt/sessions (browsers). Long-lived client keys and query tokens are not accepted in " ++
        "the WebSocket handshake."⟩)
    | some auth => do
      let resolved ← resolveSttCaller digests auth
      match resolved with
      | .error err => pure (.error err)
      | .ok caller => req.gates digests catalog caller (acceptProtocol auth)

end SttUpgrade

end routes

end ControlPlane
