/-!
# Row shapes and the database

The tables of `migrations/` that the money path reads and writes, with the
columns its code uses, and the database as a value. Money is integer micro-USD.

A timestamp is an instant, an `Int` of nanoseconds since the epoch. The SQL
columns and the gateway feed hold ISO 8601 texts; every comparison the code
makes on them is one of the instants they denote, at the precision the reader
uses.
-/

namespace ControlPlane

/-- A row of `plans`. -/
structure PlanRow where
  id : String
  name : String
  signupCreditMicroUsd : Int
  monthlyIncludedMicroUsd : Int
  requestsPerMinute : Int
  maxOutputTokens : Int
  allowedTiers : String
deriving Repr, DecidableEq

/-- A row of `accounts`. -/
structure AccountRow where
  id : String
  planId : String
  label : Option String
  suspendedAt : Option Int
  /-- Total prepaid credit granted, ever. -/
  creditMicroUsd : Int
  /-- Total metered spend recorded, ever. -/
  spentMicroUsd : Int
deriving Repr, DecidableEq

/-- One top-up: the audit trail of `AccountRow.creditMicroUsd`. -/
structure CreditGrantRow where
  id : String
  accountId : String
  microUsd : Int
  idempotencyKey : String
  note : Option String
deriving Repr, DecidableEq

/-- One month of one account, rolled up. -/
structure PeriodRow where
  accountId : String
  periodKey : String
  microUsd : Int
  requests : Int
  unmeteredRequests : Int
  adjustSpendMicroUsd : Int
  adjustCreditMicroUsd : Int
  allowanceSpentMicroUsd : Int
deriving Repr, DecidableEq

/-- How a ledger row's price was arrived at. -/
inductive PriceBasis where
  | measured
  | estimatedOutput
  | unpriced
deriving Repr, DecidableEq

/-- One ledger write. -/
structure UsageEvent where
  id : String
  requestId : String
  accountId : String
  clientId : String
  modelId : String
  periodKey : String
  inputTokens : Option Int
  outputTokens : Option Int
  microUsd : Int
  fromAllowanceMicroUsd : Int
  fromCreditMicroUsd : Int
  metered : Bool
  priceBasis : PriceBasis
  unmeteredReason : Option String
  upstreamStatus : Option Int
  gatewayLogId : Option String
deriving Repr, DecidableEq

/-- A stored ledger row: the write, and the instant the database stamped on it. -/
structure UsageEventRow extends UsageEvent where
  createdAt : Int
deriving Repr, DecidableEq

/-- Which monotonic column of the account a true-up advances. -/
inductive Direction where
  | spend
  | credit
deriving Repr, DecidableEq

/-- One true-up of a ledger row against the gateway's own cost. -/
structure UsageAdjustmentRow where
  id : String
  accountId : String
  usageEventId : Option String
  requestId : String
  gatewayLogId : String
  periodKey : String
  modelId : Option String
  estimateMicroUsd : Int
  gatewayMicroUsd : Int
  deltaMicroUsd : Int
  direction : Direction
  appliedMicroUsd : Int
  idempotencyKey : String
  note : Option String
deriving Repr, DecidableEq

/-- Where reconciliation got to for one gateway. -/
structure ReconcileStateRow where
  gatewayId : String
  watermark : Option Int
  lastLogId : Option String
  lastRunAt : Int
  runs : Nat
  rowsSeen : Nat
  rowsAdjusted : Nat
deriving Repr, DecidableEq

/-- The ledger fields the reverse check reads. -/
structure UsageEventKey where
  id : String
  requestId : String
  microUsd : Int
  metered : Bool
  createdAt : Int
deriving Repr, DecidableEq

/-- The database. Tables with a natural key are maps from it, the audit tables
    are lists of rows in insertion order. -/
structure Db where
  plans : String → Option PlanRow
  accounts : String → Option AccountRow
  creditGrants : List CreditGrantRow
  usageEvents : List UsageEventRow
  usagePeriods : String → String → Option PeriodRow
  usageAdjustments : List UsageAdjustmentRow
  reconcileState : String → Option ReconcileStateRow

/-- The database right after the migrations. -/
def Db.empty : Db where
  plans _ := none
  accounts _ := none
  creditGrants := []
  usageEvents := []
  usagePeriods _ _ := none
  usageAdjustments := []
  reconcileState _ := none

end ControlPlane
