import ControlPlane.Model.Reconcile
import ControlPlane.Model.StoreD1
import Mathlib.Data.Rat.Defs
import Mathlib.Algebra.Order.Ring.Rat

/-!
# Driving one reconciliation run

`src/reconcile-run.ts`: page the gateway feed, apply what was decided, move the
watermark. The feed answers each page once per run, so a run's feed is a function
of the page. A run that its invocation does not live to finish has no result:
`lifetime` is how many pages it lives to request.
-/

namespace ControlPlane

/-- Cap on ledger rows the reverse check will look at in one run. -/
def maxReverseCheckRows : Nat := 500

/-- Fraction of the biller's total that the estimate may be off by: 5%. -/
def driftAlertRatio : Rat := 1 / 20

/-- What a run can report beside its decisions. -/
inductive FindingKind where
  | noLedgerRow
  | accountMismatch
  | unmatchedLedgerRow
  | malformedRows
deriving Repr, DecidableEq

/-- A finding with its text. -/
structure ReconcileFinding where
  kind : FindingKind
  detail : String
deriving Repr, DecidableEq

/-- What a run answers. -/
structure ReconcileReport where
  gatewayId : String
  dryRun : Bool
  windowFrom : Int
  windowTo : Int
  watermarkBefore : Option Int
  watermarkAfter : Option Int
  pages : Nat
  truncated : Bool
  malformedRows : Nat
  applied : Nat
  alreadyApplied : Nat
  totals : ReconcileTotals
  driftRatio : Option Rat
  driftAlert : Bool
  unmatchedLedgerRows : List UsageEventKey
  findings : List ReconcileFinding
deriving DecidableEq

/-- What a run is called with. -/
structure ReconcileRunArgs where
  source : GatewayLogSource
  /-- The one clock for the run. -/
  nowMs : Int
  dryRun : Bool
  /-- The floor of a first run. None when it is absent, blank or no timestamp. -/
  since : Option Int
  maxRows : Option Int
  perPage : Option Int
  /-- The adjustment ids the run mints, in order. -/
  newId : Nat → String

/-- Why a run has no answer. -/
inductive FailureReason where
  | noFloor
  | upstream
deriving Repr, DecidableEq

/-- A failure with its text. -/
structure ReconcileFailure where
  reason : FailureReason
  detail : String
deriving Repr, DecidableEq

/-- The ledger projection a decision is made against. -/
def UsageEvent.ledgerEstimate (event : UsageEvent) : LedgerEstimate :=
  ⟨event.id, event.requestId, event.accountId, event.periodKey, event.modelId, event.microUsd,
    event.metered⟩

/-- Whether this row can possibly need its ledger row read. -/
def needsLedgerLookup (log : GatewayLogRow) : Bool :=
  log.requestId.isSome && !log.cached && log.costMicroUsd.isSome

/-- The adjustment row a run writes for one `adjust` outcome. -/
def adjustmentRow (id : String) (log : GatewayLogRow) (adjustment : Adjustment) :
    UsageAdjustmentRow where
  id := id
  accountId := adjustment.event.accountId
  usageEventId := some adjustment.event.id
  requestId := adjustment.event.requestId
  gatewayLogId := log.id
  periodKey := adjustment.event.periodKey
  modelId := some (log.model.getD adjustment.event.modelId)
  estimateMicroUsd := adjustment.estimateMicroUsd
  gatewayMicroUsd := adjustment.gatewayMicroUsd
  deltaMicroUsd := adjustment.deltaMicroUsd
  direction := adjustment.direction
  appliedMicroUsd := adjustment.appliedMicroUsd
  idempotencyKey := adjustmentIdempotencyKey log.id
  note := some ("ai gateway true-up: estimate " ++ toString adjustment.estimateMicroUsd ++
    ", billed " ++ toString adjustment.gatewayMicroUsd ++ " micro-USD")

/-- The variables of the page loop. `minted` counts the calls of `newId`. -/
structure LoopState where
  decisions : List ReconcileDecision
  findings : List ReconcileFinding
  seenRequestIds : List String
  malformed : Nat
  pages : Nat
  truncated : Bool
  applied : Nat
  alreadyApplied : Nat
  newestProcessed : Option Int
  lastLogId : Option String
  minted : Nat
deriving DecidableEq

namespace LoopState

/-- Before the first page. -/
def start : LoopState := ⟨[], [], [], 0, 0, false, 0, 0, none, none, 0⟩

/-- The bookkeeping of one decision. -/
def decide (st : LoopState) (log : GatewayLogRow) (outcome : ReconcileOutcome) : LoopState :=
  { st with
    decisions := st.decisions ++ [⟨log, outcome⟩]
    seenRequestIds := st.seenRequestIds ++ (truthy log.requestId).toList
    newestProcessed := some log.createdAt
    lastLogId := some log.id }

/-- Two of the five skips are findings. -/
def skip (st : LoopState) (reason : SkipReason) (detail : String) : LoopState :=
  match reason with
  | .noLedgerRow => { st with findings := st.findings ++ [⟨.noLedgerRow, detail⟩] }
  | .accountMismatch => { st with findings := st.findings ++ [⟨.accountMismatch, detail⟩] }
  | _ => st

/-- A true-up was written, or had been written by an earlier run. -/
def count (st : LoopState) (applied : Bool) : LoopState :=
  let st := { st with minted := st.minted + 1 }
  if applied then { st with applied := st.applied + 1 }
  else { st with alreadyApplied := st.alreadyApplied + 1 }

end LoopState

namespace ReconcileRunArgs

variable (args : ReconcileRunArgs)

/-- The exclusive lower bound: the stored watermark, else `since`. -/
def floor (state : Option ReconcileStateRow) : Option Int :=
  (state.bind (·.watermark)).or args.since

/-- The row cap the run works with. -/
def rowCap : Nat := (max 1 (args.maxRows.getD maxRowsPerRun)).toNat

/-- The page size the run works with. -/
def pageSize : Nat := (min (maxPerPage : Int) (max 1 (args.perPage.getD maxPerPage))).toNat

/-- A row newer than the settled instant, in milliseconds. -/
def unsettled (log : GatewayLogRow) : Bool :=
  args.nowMs - settleMs < dateParse log.createdAt

/-- The ledger row of a log row that may need one. -/
def readLedger (log : GatewayLogRow) : Script Db (Option LedgerEstimate) :=
  if needsLedgerLookup log then do
    let event ← getUsageEventByRequestId (log.requestId.getD "")
    pure (event.map (·.ledgerEstimate))
  else pure none

/-- What a decision does to the money: only an adjustment of a live run writes. -/
def applyOutcome (log : GatewayLogRow) (outcome : ReconcileOutcome) (st : LoopState) :
    Script Db LoopState :=
  match outcome with
  | .skipped reason detail => pure (st.skip reason detail)
  | .inAgreement _ _ => pure st
  | .adjust adjustment =>
    -- a dry run has decided, and stops here
    if args.dryRun then pure st
    else do
      let applied ← applyUsageAdjustment (adjustmentRow (args.newId st.minted) log adjustment)
      pure (st.count applied)

/-- One row of a page, once the loop has let it in. -/
def processRow (log : GatewayLogRow) (st : LoopState) : Script Db LoopState := do
  let event ← readLedger log
  let outcome := decideAdjustment log event
  args.applyOutcome log outcome (st.decide log outcome)

/-- The rows of one page. A row that is not settled, or over the cap, ends the run. -/
def processRows : List GatewayLogRow → LoopState → Script Db LoopState
  | [], st => pure st
  | log :: rest, st =>
    if args.unsettled log then pure { st with truncated := true }
    else if args.rowCap ≤ st.decisions.length then pure { st with truncated := true }
    else do
      let st ← args.processRow log st
      processRows rest st

/-- The page loop. It ends at a truncation, or at a short page. -/
def pageLoop (floor : Int) : Nat → Nat → LoopState → Script Db (Option (Except String LoopState))
  -- the Worker's lifetime is over before the feed is
  | 0, _, _ => pure none
  | lifetime + 1, page, st =>
    match args.source.listSince floor page args.pageSize with
    | .error detail => pure (some (.error detail))
    | .ok batch => do
      let st ← args.processRows batch.rows
        { st with pages := st.pages + 1, malformed := st.malformed + batch.malformed }
      if st.truncated then pure (some (.ok st))
      -- a page that is not full is the last, malformed rows counted
      else if batch.rows.length + batch.malformed < args.pageSize then pure (some (.ok st))
      else pageLoop floor lifetime (page + 1) st

/-- The findings after the loop: those of the rows, and one for the rows that
    could not be read. -/
def loopFindings (st : LoopState) : List ReconcileFinding :=
  if 0 < st.malformed then
    st.findings ++ [⟨.malformedRows, toString st.malformed ++
      " row(s) in this window could not be read as gateway log rows and were not reconciled. " ++
      "Either Cloudflare changed the response shape or the feed is corrupt; neither is safe to " ++
      "treat as an empty result"⟩]
  else st.findings

/-- The reverse check's finding. -/
def unmatchedFinding (unmatched : List UsageEventKey) : List ReconcileFinding :=
  if 0 < unmatched.length then
    [⟨.unmatchedLedgerRow, toString unmatched.length ++
      " ledger row(s) in this window have no gateway row: a request this plane metered that the " ++
      "gateway did not record. APPROXIMATE AT THE WINDOW EDGES -- a ledger row is written after " ++
      "the response, so its timestamp is later than the gateway's, and a row just inside the " ++
      "lower bound can have its gateway row just outside it. Treat a persistent count as the " ++
      "finding"⟩]
  else []

/-- What the biller charged for the rows that were compared. -/
def gatewayTotal (decisions : List ReconcileDecision) : Int :=
  (decisions.map fun d =>
    match d.outcome with
    | .adjust adjustment => adjustment.gatewayMicroUsd
    | .inAgreement microUsd _ => microUsd
    | .skipped _ _ => 0).sum

/-- Absolute drift over what the biller charged; no ratio where it charged nothing. -/
def driftRatio (decisions : List ReconcileDecision) : Option Rat :=
  let totals := tally decisions
  let total := gatewayTotal decisions
  if 0 < total then some ((totals.spendMicroUsd + totals.creditMicroUsd : Int) / total) else none

/-- A run after its loop and its reverse check, before its last write. -/
structure Prepared where
  floor : Int
  loop : LoopState
  watermarkBefore : Option Int
  unmatched : List UsageEventKey
deriving DecidableEq

/-- Where the run wants the watermark. -/
def advance (prepared : Prepared) : Option Int :=
  nextWatermark prepared.floor prepared.loop.newestProcessed args.nowMs

/-- The report of a prepared run. -/
def report (prepared : Prepared) : ReconcileReport where
  gatewayId := args.source.gatewayId
  dryRun := args.dryRun
  windowFrom := prepared.floor
  windowTo := toISOString (args.nowMs - settleMs)
  watermarkBefore := prepared.watermarkBefore
  -- a dry run moves no watermark
  watermarkAfter := if args.dryRun then none else args.advance prepared
  pages := prepared.loop.pages
  truncated := prepared.loop.truncated
  malformedRows := prepared.loop.malformed
  applied := prepared.loop.applied
  alreadyApplied := prepared.loop.alreadyApplied
  totals := tally prepared.loop.decisions
  driftRatio := driftRatio prepared.loop.decisions
  driftAlert := match driftRatio prepared.loop.decisions with
    | some ratio => driftAlertRatio < ratio
    | none => false
  unmatchedLedgerRows := prepared.unmatched
  findings := loopFindings prepared.loop ++ unmatchedFinding prepared.unmatched

/-- What the last write records. -/
def advanceArgs (prepared : Prepared) : AdvanceReconcileStateArgs where
  gatewayId := args.source.gatewayId
  watermark := args.advance prepared
  lastLogId := prepared.loop.lastLogId
  rowsSeen := (tally prepared.loop.decisions).rows
  rowsAdjusted := prepared.loop.applied
  atTime := toISOString args.nowMs

/-- The reverse check, which a dry run makes too. -/
def reverseCheck (floor : Int) (st : LoopState) : Script Db (List UsageEventKey) := do
  let ledgerRows ← listUsageEventsBetween floor (toISOString (args.nowMs - settleMs))
    maxReverseCheckRows
  pure (ledgerRows.filter fun row => !st.seenRequestIds.contains row.requestId)

/-- Everything a run does before its last write. -/
def prepare (lifetime : Nat) : Script Db (Option (Except ReconcileFailure Prepared)) := do
  let state ← getReconcileState args.source.gatewayId
  match args.floor state with
  | none =>
    pure (some (.error ⟨.noFloor, "Gateway " ++ args.source.gatewayId ++
      " has no reconciliation watermark yet, so this run has no lower bound. Supply \"since\" as " ++
      "an ISO 8601 timestamp on the first run; later runs read the watermark. It is required " ++
      "rather than defaulted because defaulting to the epoch would page the gateway's entire " ++
      "retained log history."⟩))
  | some floor =>
    let looped ← args.pageLoop floor lifetime 1 .start
    match looped with
    | none => pure none
    | some (.error detail) => pure (some (.error ⟨.upstream, detail⟩))
    | some (.ok st) =>
      let unmatched ← args.reverseCheck floor st
      pure (some (.ok ⟨floor, st, state.bind (·.watermark), unmatched⟩))

/-- The last write, and only on a live run. -/
def commit (prepared : Prepared) :
    Script Db (Option (Except ReconcileFailure ReconcileReport)) :=
  if args.dryRun then pure (some (.ok (args.report prepared)))
  else do
    advanceReconcileState (args.advanceArgs prepared)
    pure (some (.ok (args.report prepared)))

/-- What follows the preparation: its failure, or the last write. -/
def finish (prepared : Option (Except ReconcileFailure Prepared)) :
    Script Db (Option (Except ReconcileFailure ReconcileReport)) :=
  match prepared with
  | none => pure none
  | some (.error failure) => pure (some (.error failure))
  | some (.ok prepared) => args.commit prepared

end ReconcileRunArgs

/-- One reconciliation run. -/
def runReconcile (args : ReconcileRunArgs) (lifetime : Nat) :
    Script Db (Option (Except ReconcileFailure ReconcileReport)) := do
  let prepared ← args.prepare lifetime
  args.finish prepared

end ControlPlane
