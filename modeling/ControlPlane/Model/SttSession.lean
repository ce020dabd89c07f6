import ControlPlane.ForStd.Among
import ControlPlane.Model.Doors
import ControlPlane.Model.Prices
import ControlPlane.Model.StoreClients
import Mathlib.Data.Rat.Floor

/-!
# The live speech session

`src/stt-session.ts` from the open socket on: what the object keeps in its own storage and in
memory, the events that end a session, and `finalize`, which meters it.

An event is handled to its end, or until one of its store calls fails. Other calls may write
between any two statements of it. Losing the memory of the object is an event of its own.
-/

namespace ControlPlane

/-- The model of the live microphone. -/
def FLUX_STT_MODEL : String := "@cf/deepgram/flux"

/-- Published $0.0077 per audio minute. -/
def FLUX_DEFAULT_UNIT_MICRO : Nat := 7700

/-- Hard wall-clock cap. -/
def FLUX_MAX_SESSION_MS : Int := 15 * 60 * 1000

/-- Integer audio minutes to bill: at least 1, ceil of wall-clock seconds / 60. -/
def billableAudioMinutes (durationSec : Rat) : Int :=
  if durationSec ≤ 0 then 1 else max 1 ⌈durationSec / 60⌉

/-! ## The tables -/

/-- The money tables, the clients and the stored rates. -/
structure SttDb where
  ledger : Db
  clients : List ClientRow
  modelPrices : ModelPrices

/-- A script on the money tables. -/
def onLedger {α : Type} (script : Script Db α) : Script SttDb α :=
  script.zoom (·.ledger) (fun db ledger => { db with ledger := ledger })

/-- The client of an id. -/
def getClient (id : String) : Script SttDb (Option ClientRow) :=
  Script.read fun db => db.clients.find? (·.id = id)

/-- The stored rate of a model, which is read where the catalog has the model. -/
def getEntryPrice (entry : Option CatalogEntry) : Script SttDb (Option ModelPriceRow) :=
  match entry with
  | none => pure none
  | some entry => Script.read fun db => db.modelPrices.getModelPrice entry.id

/-! ## The meta of a session -/

/-- The object's own key-value table. -/
structure SttMeta where
  accountId : Option String
  clientId : Option String
  planId : Option String
  requestId : Option String
  modelId : Option String
  startedMs : Option Int
  gatewayLogId : Option String
deriving DecidableEq

/-- What a session is known by. -/
structure SessionMeta where
  accountId : String
  clientId : String
  planId : String
  requestId : String
  modelId : String
  startedMs : Int
  gatewayLogId : Option String
deriving DecidableEq

/-- A stored text that is not empty. -/
def presentText (text : Option String) : Option String := text.filter (· ≠ "")

/-- A text that is not empty is present. -/
theorem presentText_some {text : String} (h : text ≠ "") : presentText (some text) = some text := by
  simp [presentText, Option.filter, h]

/-- The stored meta, where the ids are all there. -/
def SttMeta.readMeta (stored : SttMeta) (nowMs : Int) : Option SessionMeta := do
  let accountId ← presentText stored.accountId
  let clientId ← presentText stored.clientId
  let planId ← presentText stored.planId
  let requestId ← presentText stored.requestId
  -- without a stored start the session begins now, and lasts nothing
  some ⟨accountId, clientId, planId, requestId, stored.modelId.getD FLUX_STT_MODEL,
    stored.startedMs.getD nowMs, stored.gatewayLogId⟩

/-- What the Worker hands over, signed: it names who the session is for. -/
structure SttHandoff where
  accountId : String
  clientId : String
  planId : String
  requestId : String
  named : accountId ≠ "" ∧ clientId ≠ "" ∧ planId ≠ "" ∧ requestId ≠ ""

/-- The meta of a session that was opened. -/
def SttHandoff.meta (handoff : SttHandoff) (startedMs : Int) (gatewayLogId : Option String) :
    SessionMeta :=
  ⟨handoff.accountId, handoff.clientId, handoff.planId, handoff.requestId, FLUX_STT_MODEL,
    startedMs, gatewayLogId⟩

/-- `INSERT OR REPLACE INTO meta`. -/
def SessionMeta.stored (session : SessionMeta) : SttMeta :=
  ⟨some session.accountId, some session.clientId, some session.planId, some session.requestId,
    some session.modelId, some session.startedMs, session.gatewayLogId⟩

/-- What an upgrade stores is read back. -/
@[simp] theorem SttHandoff.readMeta_meta (handoff : SttHandoff) (startedMs : Int)
    (gatewayLogId : Option String) (nowMs : Int) :
    (handoff.meta startedMs gatewayLogId).stored.readMeta nowMs =
      some (handoff.meta startedMs gatewayLogId) := by
  obtain ⟨haccount, hclient, hplan, hrequest⟩ := handoff.named
  simp only [SttMeta.readMeta, SttHandoff.meta, SessionMeta.stored, presentText_some haccount,
    presentText_some hclient, presentText_some hplan, presentText_some hrequest]
  rfl

/-! ## The meter -/

/-- One handling of an ending event: the clock and what else is around it. -/
structure SttAttempt where
  /-- `Date.now()`. -/
  nowMs : Int
  /-- `periodKey(new Date())`, once the rows are read. -/
  periodKey : String
  /-- The id `newId` mints for the row. -/
  useId : String
  /-- The database's clock when the row is inserted. -/
  createdAt : Int
  /-- How many store calls succeed before one fails. -/
  fails : Option Nat
  /-- What others write in between. -/
  others : List (SttDb → SttDb)

/-- What `finalize` reads before it decides. -/
structure SttReads where
  priceRow : Option ModelPriceRow
  client : Option ClientRow
  account : Option AccountRow
  planRow : Option PlanRow

/-- The rate of one audio minute. -/
def unitMicro (entry : Option CatalogEntry) (priceRow : Option ModelPriceRow) : Nat :=
  match entry.bind fun entry => resolveUnitPrice entry (priceRow.bind (·.unitMicroUsd)) with
  | some unitPrice =>
    -- a rate for another unit is not taken
    if unitPrice.unit = .audioMinute then unitPrice.microUsdPerUnit else FLUX_DEFAULT_UNIT_MICRO
  | none => FLUX_DEFAULT_UNIT_MICRO

namespace SessionMeta

variable (catalog : Catalog) (session : SessionMeta) (attempt : SttAttempt)

/-- Wall-clock seconds, capped. -/
def durationSec (nowMs : Int) : Rat :=
  min (max 0 (((nowMs - session.startedMs : Int) : Rat) / 1000)) ((FLUX_MAX_SESSION_MS : Rat) / 1000)

/-- The minutes a session is charged for. -/
def units (nowMs : Int) : Int := billableAudioMinutes (session.durationSec nowMs)

/-- The row without its charge. -/
def baseEvent (accountId clientId : String) : UsageEvent where
  id := attempt.useId
  requestId := session.requestId
  accountId := accountId
  clientId := clientId
  modelId := session.modelId
  periodKey := attempt.periodKey
  inputTokens := none
  outputTokens := none
  microUsd := 0
  fromAllowanceMicroUsd := 0
  fromCreditMicroUsd := 0
  metered := false
  priceBasis := .unpriced
  unmeteredReason := none
  upstreamStatus := some 101
  gatewayLogId := session.gatewayLogId

/-- The row of `recordUnmetered`. -/
def unmeteredEvent (reason accountId clientId : String) : UsageEvent :=
  { session.baseEvent attempt accountId clientId with unmeteredReason := some reason }

/-- The row of a session that is charged. -/
def meteredEvent (microUsd : Int) (split : ChargeAllocation) (accountId clientId : String) :
    UsageEvent :=
  { session.baseEvent attempt accountId clientId with
    microUsd := microUsd
    fromAllowanceMicroUsd := split.fromAllowanceMicroUsd
    fromCreditMicroUsd := split.fromCreditMicroUsd
    metered := true
    priceBasis := .measured }

/-- The checks of `finalize` on the plan, which end in its refusals' common words. -/
def recheckPlan (account : AccountRow) (planRow : Option PlanRow) (notCharged : String) :
    Except (String × String) Plan :=
  match planRow with
  | none => .error ("plan " ++ session.planId ++
      " no longer exists, so no allowance split can be computed; " ++ notCharged, account.id)
  | some row =>
    match planFromRow row with
    | .error reason => .error ("plan " ++ session.planId ++ " is unusable (" ++ reason ++ "); " ++
        notCharged, account.id)
    | .ok plan =>
      -- a model that has left the catalog entitles nobody
      if (catalog.findModel session.modelId).any fun entry => entitlesTier plan entry.tier then
        .ok plan
      else .error ("model " ++ session.modelId ++ " is no longer entitled under plan " ++
        plan.id ++ "; " ++ notCharged, account.id)

/-- Why a session is recorded without a charge, and on which account: the checks `finalize`
    makes again, in its order. -/
def recheck (client : ClientRow) (account : AccountRow) (planRow : Option PlanRow) :
    Except (String × String) Plan :=
  let units := toString (session.units attempt.nowMs)
  let notCharged := units ++ " audio minute(s) served and not charged"
  -- the account of the client decides where the row goes, not the stored meta
  if client.accountId ≠ account.id ∨ client.accountId ≠ session.accountId then
    .error ("client/account mismatch at finalize: session meta claimed account " ++
      session.accountId ++ ", client " ++ client.id ++ " belongs to " ++ client.accountId ++ ". " ++
      units ++ " audio minute(s) served and deliberately not charged", client.accountId)
  else if client.revokedAt.isSome then
    .error ("client " ++ client.id ++ " was revoked before the session closed; " ++ notCharged,
      account.id)
  else if account.suspendedAt.isSome then
    .error ("account " ++ account.id ++ " was suspended before the session closed; " ++ notCharged,
      account.id)
  else session.recheckPlan catalog account planRow notCharged

/-- The split of a charge against a period as it was read. -/
def splitCharge (microUsd : Int) (plan : Plan) (period : Option PeriodRow) : ChargeAllocation :=
  -- nothing charged, nothing to split
  if 0 < microUsd then
    allocateCharge microUsd plan.monthlyIncludedMicroUsd
      ((period.map (·.allowanceSpentMicroUsd)).getD 0)
  else ⟨0, 0⟩

/-- What the session costs at the rate that was read. -/
def microUsd (priceRow : Option ModelPriceRow) : Int :=
  session.units attempt.nowMs * unitMicro (catalog.findModel session.modelId) priceRow

/-- Charge the session. -/
def charge (microUsd : Int) (plan : Plan) (accountId clientId : String) : Script SttDb Unit := do
  let period ← onLedger (getPeriod accountId attempt.periodKey)
  onLedger (recordUsage (session.meteredEvent attempt microUsd (splitCharge microUsd plan period)
    accountId clientId) attempt.createdAt)

/-- Write the row, with both its owners there. -/
def record (priceRow : Option ModelPriceRow) (client : ClientRow) (account : AccountRow)
    (planRow : Option PlanRow) : Script SttDb Unit :=
  match session.recheck catalog attempt client account planRow with
  | .error (reason, accountId) =>
    onLedger (recordUsage (session.unmeteredEvent attempt reason accountId client.id)
      attempt.createdAt)
  | .ok plan =>
    session.charge attempt (session.microUsd catalog attempt priceRow) plan account.id client.id

/-- `finalize` once its rows are read: both owners are foreign keys of the row. -/
def settle (reads : SttReads) : Script SttDb Unit :=
  match reads.client, reads.account with
  | some client, some account =>
    session.record catalog attempt reads.priceRow client account reads.planRow
  -- without both of them there is no row to write
  | _, _ => pure ()

/-- The store calls of `finalize`. -/
def meter : Script SttDb Unit := do
  let priceRow ← getEntryPrice (catalog.findModel session.modelId)
  let client ← getClient session.clientId
  let account ← onLedger (getAccount session.accountId)
  let planRow ← onLedger (getPlan session.planId)
  session.settle catalog attempt ⟨priceRow, client, account, planRow⟩

end SessionMeta

/-! ## The object -/

/-- What a restart loses. -/
structure SttMemory where
  /-- Whether the upstream socket is held. -/
  upstream : Bool
  finalized : Bool
  maxTimer : Bool
deriving Repr, DecidableEq

/-- An object that was constructed again. -/
def SttMemory.constructed : SttMemory := ⟨false, false, false⟩

/-- A session, its database and what is under way. -/
structure SttState where
  stored : SttMeta
  memory : SttMemory
  db : SttDb
  /-- Statements that were sent and answered with a failure. -/
  inFlight : List (SttDb → SttDb)

/-- What may end a session. -/
inductive SttEnding where
  | message
  | close
  | error
  /-- The maximum duration has passed. -/
  | timer
deriving Repr, DecidableEq

/-- A message ends a session that has lost its socket, the timer one that has it armed. -/
def SttEnding.ends (ending : SttEnding) (memory : SttMemory) : Bool :=
  match ending with
  | .message => !memory.upstream
  | .timer => memory.maxTimer
  | .close => true
  | .error => true

/-- What can happen to a session. -/
inductive SttEvent where
  | ending (ending : SttEnding) (attempt : SttAttempt)
  /-- The object loses its memory. -/
  | restart
  /-- A statement takes effect whose call has failed. -/
  | lands (i : Nat)
  /-- Another call writes. -/
  | other (effect : SttDb → SttDb)

namespace SttState

variable (catalog : Catalog)

/-- A session whose socket was just accepted. -/
def opened (session : SessionMeta) (db : SttDb) : SttState :=
  ⟨session.stored, ⟨true, false, true⟩, db, []⟩

/-- `finalize`. A failure of the store is logged. -/
def finalize (s : SttState) (attempt : SttAttempt) : SttState :=
  if s.memory.finalized then s
  else
    let memory := { s.memory with finalized := true, maxTimer := false }
    match s.stored.readMeta attempt.nowMs with
    | none => { s with memory := memory }
    | some session =>
      let metered := (session.meter catalog attempt).among attempt.fails attempt.others s.db
      { s with memory := memory, db := metered.2, inFlight := s.inFlight ++ metered.1.sent }

/-- The memory once the handler has dropped its socket. -/
def dropUpstream (s : SttState) (ending : SttEnding) : SttState :=
  match ending with
  | .close => { s with memory := { s.memory with upstream := false } }
  | .error => { s with memory := { s.memory with upstream := false } }
  | _ => s

/-- The handlers of the ending events. -/
def handle (s : SttState) (ending : SttEnding) (attempt : SttAttempt) : SttState :=
  if ending.ends s.memory then (s.dropUpstream ending).finalize catalog attempt else s

/-- One event. -/
def step (s : SttState) : SttEvent → SttState
  | .ending ending attempt => s.handle catalog ending attempt
  | .restart => { s with memory := .constructed }
  | .lands i =>
    match s.inFlight[i]? with
    | none => s
    | some effect => { s with db := effect s.db, inFlight := s.inFlight.eraseIdx i }
  | .other effect => { s with db := effect s.db }

/-- Events, one after another. -/
def run (s : SttState) (events : List SttEvent) : SttState := events.foldl (step catalog) s

end SttState

end ControlPlane
