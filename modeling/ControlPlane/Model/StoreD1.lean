import ControlPlane.ForStd.Script
import ControlPlane.ForStd.Table
import ControlPlane.Model.Store
import Mathlib.Data.List.Sort

/-!
# The D1 store

`src/store-d1.ts`. Every SQL statement, and every `batch`, is one atomic
statement on `Db`; each store method is the script of its statements. A unique
index is the conflict test of its table's insert.
-/

namespace ControlPlane

/-! ## Statements -/

namespace Db

/-- `UPDATE accounts SET ... WHERE id = ?`. Touches nothing when no such row exists. -/
def updateAccount (db : Db) (id : String) (f : AccountRow → AccountRow) : Db :=
  { db with accounts := fun a => if a = id then (db.accounts a).map f else db.accounts a }

/-- `INSERT INTO usage_periods ... ON CONFLICT(account_id, period_key) DO UPDATE`:
    the stored row, or a row of zeros, with `f` applied. -/
def upsertPeriod (db : Db) (accountId periodKey : String) (f : PeriodRow → PeriodRow) : Db :=
  { db with usagePeriods := fun a k =>
      if a = accountId ∧ k = periodKey then
        some (f ((db.usagePeriods a k).getD ⟨a, k, 0, 0, 0, 0, 0, 0⟩))
      else db.usagePeriods a k }

/-- `credit_grants`: `id` is the primary key and `idempotency_key` is unique. -/
def grantConflict (row stored : CreditGrantRow) : Bool :=
  stored.id == row.id || stored.idempotencyKey == row.idempotencyKey

/-- `usage_events`: `id` is the primary key and `(client_id, request_id)` is unique. -/
def eventConflict (row stored : UsageEventRow) : Bool :=
  stored.id == row.id || (stored.clientId == row.clientId && stored.requestId == row.requestId)

/-- `usage_adjustments`: `id` is the primary key and `idempotency_key` is unique. -/
def adjustmentConflict (row stored : UsageAdjustmentRow) : Bool :=
  stored.id == row.id || stored.idempotencyKey == row.idempotencyKey

/-- `INSERT OR IGNORE INTO credit_grants`, answering whether a row was written. -/
def insertGrant (db : Db) (row : CreditGrantRow) : Db × Bool :=
  let insert := Table.insertOrIgnore grantConflict row db.creditGrants
  ({ db with creditGrants := insert.1 }, insert.2)

/-- `INSERT OR IGNORE INTO usage_events`. -/
def insertEvent (db : Db) (row : UsageEventRow) : Db × Bool :=
  let insert := Table.insertOrIgnore eventConflict row db.usageEvents
  ({ db with usageEvents := insert.1 }, insert.2)

/-- `INSERT OR IGNORE INTO usage_adjustments`. -/
def insertAdjustment (db : Db) (row : UsageAdjustmentRow) : Db × Bool :=
  let insert := Table.insertOrIgnore adjustmentConflict row db.usageAdjustments
  ({ db with usageAdjustments := insert.1 }, insert.2)

end Db

/-- `credit_micro_usd = credit_micro_usd + ?`. -/
def AccountRow.addCredit (microUsd : Int) (row : AccountRow) : AccountRow :=
  { row with creditMicroUsd := row.creditMicroUsd + microUsd }

/-- `spent_micro_usd = spent_micro_usd + ?`. -/
def AccountRow.addSpent (microUsd : Int) (row : AccountRow) : AccountRow :=
  { row with spentMicroUsd := row.spentMicroUsd + microUsd }

/-! ## Reads -/

/-- The plan of an id. -/
def getPlan (id : String) : Script Db (Option PlanRow) :=
  Script.read (fun db => db.plans id)

/-- The account of an id. -/
def getAccount (id : String) : Script Db (Option AccountRow) :=
  Script.read (fun db => db.accounts id)

/-- The counters of an account's period. -/
def getPeriod (accountId periodKey : String) : Script Db (Option PeriodRow) :=
  Script.read (fun db => db.usagePeriods accountId periodKey)

/-- The usage row of a request. -/
def getUsageEventByRequestId (requestId : String) : Script Db (Option UsageEventRow) :=
  Script.read (fun db => db.usageEvents.find? (fun row => row.requestId == requestId))

/-- The reconciliation state of a gateway. -/
def getReconcileState (gatewayId : String) : Script Db (Option ReconcileStateRow) :=
  Script.read (fun db => db.reconcileState gatewayId)

/-! ## Credit -/

/-- What an account is created with. -/
structure CreateAccountArgs where
  id : String
  planId : String
  label : Option String
  creditMicroUsd : Int
  grantId : String
  grantIdempotencyKey : String
deriving Repr, DecidableEq

/-- The batch of `createAccount`: both inserts land, or a constraint fails and
    neither does. -/
def Db.createAccountBatch (db : Db) (args : CreateAccountArgs) : Db × Bool :=
  let row : AccountRow := ⟨args.id, args.planId, args.label, none, args.creditMicroUsd, 0⟩
  let grant : CreditGrantRow := ⟨args.grantId, args.id, args.creditMicroUsd,
    args.grantIdempotencyKey, some "opening grant from plan signup credit"⟩
  -- one constraint that fails takes both inserts back
  if (db.accounts args.id).isSome || db.creditGrants.any (Db.grantConflict grant) then (db, false)
  else
    ({ db with
        accounts := fun a => if a = args.id then some row else db.accounts a
        creditGrants := db.creditGrants ++ [grant] }, true)

/-- Create the account with its opening grant, or throw. -/
def createAccount (args : CreateAccountArgs) : Script Db (Except String AccountRow) := do
  let inserted ← Script.exec (fun db => db.createAccountBatch args)
  if inserted then
    -- the answer is the row as it is stored
    let row ← getAccount args.id
    match row with
    | none => pure (.error ("account " ++ args.id ++ " was inserted but could not be read back"))
    | some row => pure (.ok row)
  else pure (.error "UNIQUE constraint failed")

/-- What a grant is made with. -/
structure GrantCreditArgs where
  id : String
  accountId : String
  microUsd : Int
  idempotencyKey : String
  note : Option String
deriving Repr, DecidableEq

/-- The row `grantCredit` inserts. -/
def GrantCreditArgs.row (args : GrantCreditArgs) : CreditGrantRow :=
  ⟨args.id, args.accountId, args.microUsd, args.idempotencyKey, args.note⟩

/-- Whether the grant was new, and the credit after it. -/
structure GrantCreditResult where
  applied : Bool
  creditMicroUsd : Int
deriving Repr, DecidableEq

/-- Add credit, idempotent on the caller's key: the account advances only when
    the grant row landed. -/
def grantCredit (args : GrantCreditArgs) : Script Db GrantCreditResult := do
  let insert ← Script.exec (fun db => db.insertGrant args.row)
  if insert then
    Script.exec (fun db => (db.updateAccount args.accountId (.addCredit args.microUsd), ()))
  let row ← getAccount args.accountId
  pure ⟨insert, (row.map (·.creditMicroUsd)).getD 0⟩

/-! ## The usage ledger -/

/-- What an event takes from the allowance: nothing unless it is metered. -/
def UsageEvent.fromAllowance (event : UsageEvent) : Int :=
  if event.metered then event.fromAllowanceMicroUsd else 0

/-- What an event takes from credit: nothing unless it is metered. -/
def UsageEvent.fromCredit (event : UsageEvent) : Int :=
  if event.metered then event.fromCreditMicroUsd else 0

/-- The row `recordUsage` inserts, stamped with the database's clock. -/
def UsageEvent.row (event : UsageEvent) (createdAt : Int) : UsageEventRow :=
  { event with
    fromAllowanceMicroUsd := event.fromAllowance
    fromCreditMicroUsd := event.fromCredit
    createdAt := createdAt }

/-- The period columns one ledger row advances. An unmetered row is counted,
    and moves no money. -/
def UsageEvent.advancePeriod (event : UsageEvent) (row : PeriodRow) : PeriodRow :=
  { row with
    microUsd := row.microUsd + (if event.metered then event.microUsd else 0)
    requests := row.requests + 1
    unmeteredRequests := row.unmeteredRequests + (if event.metered then 0 else 1)
    allowanceSpentMicroUsd := row.allowanceSpentMicroUsd + event.fromAllowance }

/-- Prepaid spend, the last write: only a metered row that took credit. -/
def advanceSpent (event : UsageEvent) : Script Db Unit :=
  if event.metered ∧ 0 < event.fromCredit then
    Script.exec (fun db => (db.updateAccount event.accountId (.addSpent event.fromCredit), ()))
  else pure ()

/-- The counter writes that follow a ledger row that landed. -/
def advanceCounters (event : UsageEvent) : Script Db Unit := do
  Script.exec (fun db => (db.upsertPeriod event.accountId event.periodKey event.advancePeriod, ()))
  advanceSpent event

/-- Ledger row, then the period counters, then prepaid spend, the last two only
    when the row landed. -/
def recordUsage (event : UsageEvent) (createdAt : Int) : Script Db Unit := do
  let insert ← Script.exec (fun db => db.insertEvent (event.row createdAt))
  if insert then advanceCounters event else pure ()

/-! ## True-ups -/

/-- The period columns one true-up advances. -/
def UsageAdjustmentRow.advancePeriod (row : UsageAdjustmentRow) (period : PeriodRow) : PeriodRow :=
  { period with
    adjustSpendMicroUsd := period.adjustSpendMicroUsd +
      (if row.direction = .spend then row.appliedMicroUsd else 0)
    adjustCreditMicroUsd := period.adjustCreditMicroUsd +
      (if row.direction = .credit then row.appliedMicroUsd else 0) }

/-- The grant row of a downward true-up. -/
def UsageAdjustmentRow.grant (row : UsageAdjustmentRow) : CreditGrantRow where
  id := row.id
  accountId := row.accountId
  microUsd := row.appliedMicroUsd
  idempotencyKey := row.idempotencyKey
  note := some (row.note.getD ("reconciliation credit for gateway log " ++ row.gatewayLogId))

/-- The money batch of a true-up. The grant insert of the credit direction is
    `OR IGNORE`; the account update beside it is unconditional. -/
def Db.moveMoney (db : Db) (row : UsageAdjustmentRow) : Db :=
  match row.direction with
  | .spend =>
    (db.updateAccount row.accountId (.addSpent row.appliedMicroUsd)).upsertPeriod
      row.accountId row.periodKey row.advancePeriod
  | .credit =>
    ((db.insertGrant row.grant).1.updateAccount row.accountId
      (.addCredit row.appliedMicroUsd)).upsertPeriod row.accountId row.periodKey row.advancePeriod

/-- One true-up: the audit row, then, only if it landed, the money in one batch.
    Answers `applied`. -/
def applyUsageAdjustment (row : UsageAdjustmentRow) : Script Db Bool := do
  let insert ← Script.exec (fun db => db.insertAdjustment row)
  if insert then
    Script.exec (fun db => (db.moveMoney row, ()))
    pure true
  else pure false

/-! ## Reconciliation state -/

/-- What the reconciliation state is advanced with. -/
structure AdvanceReconcileStateArgs where
  gatewayId : String
  watermark : Option Int
  lastLogId : Option String
  rowsSeen : Nat
  rowsAdjusted : Nat
  atTime : Int
deriving Repr, DecidableEq

/-- `COALESCE(a, b)`. -/
def coalesce {α : Type} (a b : Option α) : Option α :=
  match a with
  | some x => some x
  | none => b

/-- Record a run. A null watermark leaves the stored one alone. -/
def Db.advanceReconcileState (db : Db) (args : AdvanceReconcileStateArgs) : Db :=
  { db with reconcileState := fun g =>
      if g = args.gatewayId then
        some (match db.reconcileState g with
          -- the first run of the gateway inserts its row
          | none => ⟨g, args.watermark, args.lastLogId, args.atTime, 1, args.rowsSeen,
              args.rowsAdjusted⟩
          | some row => ⟨g, coalesce args.watermark row.watermark,
              coalesce args.lastLogId row.lastLogId, args.atTime, row.runs + 1,
              row.rowsSeen + args.rowsSeen, row.rowsAdjusted + args.rowsAdjusted⟩)
      else db.reconcileState g }

/-- Advance the reconciliation state of a gateway. -/
def advanceReconcileState (args : AdvanceReconcileStateArgs) : Script Db Unit :=
  Script.exec (fun db => (db.advanceReconcileState args, ()))

/-- `datetime(t)`: the instant cut down to its second. -/
def sqlDatetime (t : Int) : Int := t / 1000000000

/-- Ledger rows inside a window, compared as SQLite compares `datetime()` values. -/
def listUsageEventsBetween (fromIso toIso : Int) (limit : Int) :
    Script Db (List UsageEventKey) :=
  Script.read fun db =>
    -- the window is compared by the second, the order is the column's own
    (((db.usageEvents.filter fun row =>
        sqlDatetime fromIso < sqlDatetime row.createdAt ∧
          sqlDatetime row.createdAt ≤ sqlDatetime toIso).insertionSort
        fun a b => a.createdAt ≤ b.createdAt).take (max 0 limit).toNat).map fun row =>
      ⟨row.id, row.requestId, row.microUsd, row.metered, row.createdAt⟩

end ControlPlane
