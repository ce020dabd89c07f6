import ControlPlane.Model.Balance
import ControlPlane.Model.Plans
import ControlPlane.Model.StoreD1

/-!
# The metered doors

What the chat route, the non-chat routes, the long-run workflow and the live
speech session do to the money tables for one request: read the account, its
plan and its period for the gate, call the model, read the period again to split
the charge, and record the row.

The model call is the environment's: a request carries the row its door will
want to record for the answer it gets (priced or unmetered), and the door fills
in the split.
-/

namespace ControlPlane

/-- The event with its charge split against a period row as it was read. -/
def UsageEvent.withSplit (event : UsageEvent) (monthlyIncluded : Int)
    (period : Option PeriodRow) : UsageEvent :=
  let split := allocateCharge event.microUsd monthlyIncluded
    ((period.map (·.allowanceSpentMicroUsd)).getD 0)
  { event with
    fromAllowanceMicroUsd := split.fromAllowanceMicroUsd
    fromCreditMicroUsd := split.fromCreditMicroUsd }

/-- The event with neither pool touched. -/
def UsageEvent.withoutSplit (event : UsageEvent) : UsageEvent :=
  { event with fromAllowanceMicroUsd := 0, fromCreditMicroUsd := 0 }

/-- A row that says the request was served and could not be charged. -/
def UsageEvent.unmetered (event : UsageEvent) (reason : String) : UsageEvent :=
  { event with
    inputTokens := none
    outputTokens := none
    microUsd := 0
    fromAllowanceMicroUsd := 0
    fromCreditMicroUsd := 0
    metered := false
    priceBasis := .unpriced
    unmeteredReason := some reason }

/-- The door a request came in by. -/
inductive Door where
  | chat
  | nonChat
  | workflow
  | stt
deriving Repr, DecidableEq

/-- One request at a metered door. -/
structure DoorRequest where
  door : Door
  /-- The row for the answer the model call will give; its split is not set yet. -/
  event : UsageEvent
  /-- Whether that answer leaves a row at all: an upstream error at the chat door does not. -/
  answered : Bool
  /-- Billed units, named in the reasons of the speech door. -/
  units : Nat
  /-- The unit rate the non-chat gate wants to fit, zero at the chat door. -/
  minCharge : Int
  /-- The database's clock when the row is inserted. -/
  createdAt : Int
deriving Repr, DecidableEq

namespace DoorRequest

variable (req : DoorRequest)

/-- Read the period and record the row with its charge split against it. A
    charge of zero is recorded with neither pool touched. -/
def splitAndRecord (plan : Plan) : Script Db Unit := do
  let period ← getPeriod req.event.accountId req.event.periodKey
  let event := if 0 < req.event.microUsd then
      req.event.withSplit plan.monthlyIncludedMicroUsd period
    else req.event.withoutSplit
  recordUsage event req.createdAt

/-- `buildEvent` of the chat route: no read at all when nothing is charged. -/
def settleChat (plan : Plan) : Script Db Unit :=
  if req.event.metered ∧ 0 < req.event.microUsd then req.splitAndRecord plan
  else recordUsage req.event.withoutSplit req.createdAt

/-- `meterAndRespond` and `recordUnmetered` of the non-chat routes. -/
def settleNonChat (plan : Plan) : Script Db Unit :=
  if req.event.metered then req.splitAndRecord plan
  else recordUsage req.event.withoutSplit req.createdAt

/-- `meterJob` of the workflow: it reads the account first and throws without one. -/
def settleWorkflow (plan : Plan) : Script Db Unit := do
  let account ← getAccount req.event.accountId
  if account.isSome then req.splitAndRecord plan else pure ()

/-- The tail of every refusal reason of `finalize`. -/
def notCharged : String := toString req.units ++ " audio minute(s) served and not charged"

/-- The checks of `finalize` on what it read. A client that is gone, mismatched
    or revoked is part of the answer: it arrives here as an unmetered event. -/
def finalizeWith (planId : String) (account : AccountRow) (planRow : Option PlanRow) :
    Script Db Unit :=
  -- what was not metered keeps its row, whatever the account is now
  if req.event.metered = false then recordUsage req.event.withoutSplit req.createdAt
  else if account.suspendedAt.isSome then
    recordUsage (req.event.unmetered ("account " ++ account.id ++
      " was suspended before the session closed; " ++ req.notCharged)) req.createdAt
  else
    match planRow with
    | none =>
      recordUsage (req.event.unmetered ("plan " ++ planId ++
        " no longer exists, so no allowance split can be computed; " ++ req.notCharged))
        req.createdAt
    | some row =>
      match planFromRow row with
      | .error reason =>
        recordUsage (req.event.unmetered ("plan " ++ planId ++ " is unusable (" ++ reason ++
          "); " ++ req.notCharged)) req.createdAt
      | .ok plan => req.splitAndRecord plan

/-- `finalize` of a speech session once the account is read: the plan is read
    again, and without an account there is nothing writable. -/
def finalizeAccount (planId : String) (account : Option AccountRow) : Script Db Unit := do
  let planRow ← getPlan planId
  match account with
  | none => pure ()
  | some row => req.finalizeWith planId row planRow

/-- `finalize` of a speech session. -/
def settleStt (planId : String) : Script Db Unit := do
  let account ← getAccount req.event.accountId
  req.finalizeAccount planId account

/-- What the door does once the model has answered. -/
def settle (plan : Plan) (planId : String) : Script Db Unit :=
  if req.answered = false then pure ()
  else
    match req.door with
    | .chat => req.settleChat plan
    | .nonChat => req.settleNonChat plan
    | .workflow => req.settleWorkflow plan
    | .stt => req.settleStt planId

/-- The spend gate, on the account and the period as they were read: the pools
    must have room, and at the non-chat doors room for one unit. -/
def admits (account : AccountRow) (plan : Plan) (period : Option PeriodRow) : Bool :=
  let allowanceSpent := (period.map (·.allowanceSpentMicroUsd)).getD 0
  match decideBalance ⟨account.creditMicroUsd, account.spentMicroUsd,
      plan.monthlyIncludedMicroUsd, allowanceSpent⟩ with
  | .allow remaining _ _ => !(0 < req.minCharge && remaining < req.minCharge)
  | _ => false

/-- The gate's period read. -/
def gatePeriod (account : AccountRow) (plan : Plan) : Script Db Unit := do
  let period ← getPeriod req.event.accountId req.event.periodKey
  if req.admits account plan period then req.settle plan account.planId else pure ()

/-- The gate once the plan row is read: `planFromRow` may refuse it. -/
def gatePlan (account : AccountRow) (planRow : Option PlanRow) : Script Db Unit :=
  match planRow with
  | none => pure ()
  | some row =>
    match planFromRow row with
    | .error _ => pure ()
    | .ok plan => req.gatePeriod account plan

/-- `resolveClient` once the account is read. -/
def gateAccount (account : Option AccountRow) : Script Db Unit :=
  match account with
  | none => pure ()
  | some row =>
    if row.suspendedAt.isSome then pure ()
    else do
      let planRow ← getPlan row.planId
      req.gatePlan row planRow

/-- One request, from its gate to its ledger row. -/
def run : Script Db Unit := do
  let account ← getAccount req.event.accountId
  req.gateAccount account

end DoorRequest

/-! ## The rows the doors build -/

/-- The events the four doors hand to `recordUsage`: unmetered or free rows with
    neither pool touched, and priced rows split against some read of the period. -/
inductive DoorBuilt : UsageEvent → Prop
  | split (event : UsageEvent) (monthlyIncluded : Int) (period : Option PeriodRow)
      (h : 0 ≤ event.microUsd) : DoorBuilt (event.withSplit monthlyIncluded period)
  | unsplit (event : UsageEvent) (h : event.metered = true → event.microUsd = 0) :
      DoorBuilt event.withoutSplit
  | unmetered (event : UsageEvent) (reason : String) : DoorBuilt (event.unmetered reason)

/-- A metered row of a door accounts for its own price. -/
theorem DoorBuilt.accounts {event : UsageEvent} (h : DoorBuilt event)
    (hm : event.metered = true) :
    event.fromAllowanceMicroUsd + event.fromCreditMicroUsd = event.microUsd := by
  cases h with
  | split e monthlyIncluded period h =>
    exact (allocateCharge_spec e.microUsd monthlyIncluded _ h).2.2.1
  | unsplit e h => simp only [UsageEvent.withoutSplit] at hm ⊢; simp [h hm]
  | unmetered e reason => exact absurd hm (by simp [UsageEvent.unmetered])

end ControlPlane
