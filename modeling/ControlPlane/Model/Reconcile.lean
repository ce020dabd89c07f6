import ControlPlane.Model.AigLogs
import ControlPlane.Model.Clock

/-!
# Deciding what a gateway log row means for one ledger row

`src/reconcile.ts`: the comparison of a gateway row with the ledger row it joins
to, the roll-up of a run's decisions, and where the watermark goes.

## Key results

- `decideAdjustment_of_joins` / `compareCost_adjust`: when money moves, and how much
- `nextWatermark_eq`: the watermark as a minimum of two instants
-/

namespace ControlPlane

/-- The ledger row a gateway row is compared against. -/
structure LedgerEstimate where
  id : String
  requestId : String
  accountId : String
  periodKey : String
  modelId : String
  microUsd : Int
  metered : Bool
deriving Repr, DecidableEq

/-- Why a row is passed over. -/
inductive SkipReason where
  | noRequestId
  | cached
  | unknownCost
  | noLedgerRow
  | accountMismatch
deriving Repr, DecidableEq

/-- The amounts of an `adjust` outcome. -/
structure Adjustment where
  direction : Direction
  appliedMicroUsd : Int
  deltaMicroUsd : Int
  estimateMicroUsd : Int
  gatewayMicroUsd : Int
  event : LedgerEstimate
deriving Repr, DecidableEq

/-- What is decided about a row. -/
inductive ReconcileOutcome where
  | adjust (adjustment : Adjustment)
  | inAgreement (microUsd : Int) (event : LedgerEstimate)
  | skipped (reason : SkipReason) (detail : String)
deriving Repr, DecidableEq

/-- A row with its outcome. -/
structure ReconcileDecision where
  log : GatewayLogRow
  outcome : ReconcileOutcome
deriving Repr, DecidableEq

/-- A string that is neither null nor empty. -/
def truthy (s : Option String) : Option String :=
  s.filter (· ≠ "")

/-- What a ledger row was charged: nothing unless it is metered. -/
def LedgerEstimate.charged (event : LedgerEstimate) : Int :=
  if event.metered then event.microUsd else 0

/-- The comparison of the two amounts, once every refusal has passed. -/
def compareCost (gatewayMicroUsd : Int) (event : LedgerEstimate) : ReconcileOutcome :=
  let estimateMicroUsd := event.charged
  let deltaMicroUsd := gatewayMicroUsd - estimateMicroUsd
  -- a cost that agrees moves nothing
  if deltaMicroUsd = 0 then .inAgreement gatewayMicroUsd event
  else
    .adjust {
      direction := if deltaMicroUsd > 0 then .spend else .credit
      appliedMicroUsd := deltaMicroUsd.natAbs
      deltaMicroUsd
      estimateMicroUsd
      gatewayMicroUsd
      event }

/-- Compare one gateway row against the ledger row it joins to. -/
def decideAdjustment (log : GatewayLogRow) (event : Option LedgerEstimate) : ReconcileOutcome :=
  match truthy log.requestId with
  | none => .skipped .noRequestId
      ("the gateway row carries no cf-aig-metadata.request_id, so it cannot be attributed to a " ++
        "ledger row. Traffic this plane sent always carries one; a row without it was sent by " ++
        "something else on the same gateway")
  | some requestId =>
    if log.cached then .skipped .cached
      ("the gateway served this from cache. The gateway runs cache_ttl=0, so a cached row means " ++
        "the cache was enabled without teaching the ledger to read cf-aig-cache-status; no money " ++
        "is moved")
    else
      match log.costMicroUsd with
      | none => .skipped .unknownCost
          ("the gateway row carries no usable cost, so what this request actually cost is " ++
            "unknown. An absent cost is not a zero cost: reading it as free would turn a gap in " ++
            "Cloudflare's telemetry into a credit refund")
      | some cost =>
        match event with
        | none => .skipped .noLedgerRow
            ("gateway log " ++ log.id ++ " names request " ++ requestId ++ " and cost " ++
              toString cost ++ " micro-USD, but this plane has no ledger row for it. That is " ++
              "spend Cloudflare billed us and we did not record")
        | some event =>
          match truthy log.accountId with
          -- an untagged row is settled on the account of its request
          | none => compareCost cost event
          | some accountId =>
            if accountId ≠ event.accountId then .skipped .accountMismatch
              ("gateway log " ++ log.id ++ " is tagged account " ++ accountId ++
                " but ledger row " ++ event.id ++ " belongs to " ++ event.accountId ++
                ". No adjustment was applied to either")
            else compareCost cost event

/-- The idempotency key a true-up is written under. -/
def adjustmentIdempotencyKey (gatewayLogId : String) : String := "aig:" ++ gatewayLogId

/-- The counts of a run. -/
structure ReconcileTotals where
  rows : Nat
  inAgreement : Nat
  adjustedSpend : Nat
  adjustedCredit : Nat
  spendMicroUsd : Int
  creditMicroUsd : Int
  skippedNoRequestId : Nat
  skippedCached : Nat
  skippedUnknownCost : Nat
  skippedNoLedgerRow : Nat
  skippedAccountMismatch : Nat
deriving Repr, DecidableEq

/-- Nothing counted yet. -/
def emptyTotals : ReconcileTotals := ⟨0, 0, 0, 0, 0, 0, 0, 0, 0, 0, 0⟩

/-- The counter of one skip reason. -/
def ReconcileTotals.countSkip (totals : ReconcileTotals) : SkipReason → ReconcileTotals
  | .noRequestId => { totals with skippedNoRequestId := totals.skippedNoRequestId + 1 }
  | .cached => { totals with skippedCached := totals.skippedCached + 1 }
  | .unknownCost => { totals with skippedUnknownCost := totals.skippedUnknownCost + 1 }
  | .noLedgerRow => { totals with skippedNoLedgerRow := totals.skippedNoLedgerRow + 1 }
  | .accountMismatch =>
    { totals with skippedAccountMismatch := totals.skippedAccountMismatch + 1 }

/-- One decision in the report: its row, and the counter of its outcome. -/
def ReconcileTotals.count (totals : ReconcileTotals) (decision : ReconcileDecision) :
    ReconcileTotals :=
  let totals := { totals with rows := totals.rows + 1 }
  match decision.outcome with
  | .inAgreement _ _ => { totals with inAgreement := totals.inAgreement + 1 }
  | .adjust adjustment =>
    match adjustment.direction with
    | .spend =>
      { totals with
        adjustedSpend := totals.adjustedSpend + 1
        spendMicroUsd := totals.spendMicroUsd + adjustment.appliedMicroUsd }
    | .credit =>
      { totals with
        adjustedCredit := totals.adjustedCredit + 1
        creditMicroUsd := totals.creditMicroUsd + adjustment.appliedMicroUsd }
  | .skipped reason _ => totals.countSkip reason

/-- Roll a run's decisions into the report an operator reads. -/
def tally (decisions : List ReconcileDecision) : ReconcileTotals :=
  decisions.foldl .count emptyTotals

/-- How long a gateway row is given to become readable: 15 minutes. -/
def settleMs : Int := 15 * 60 * 1000

/-- Cap on rows one run will process. -/
def maxRowsPerRun : Int := 2000

/-- Where the watermark should sit after a run, or none to leave it alone. -/
def nextWatermark (current : Int) (newestProcessed : Option Int) (nowMs : Int) : Option Int :=
  let ceilingMs := nowMs - settleMs
  let currentMs := dateParse current
  let candidateMs :=
    match newestProcessed with
    | some newest => if dateParse newest < ceilingMs then dateParse newest else ceilingMs
    | none => ceilingMs
  if candidateMs ≤ currentMs then none else some (toISOString candidateMs)

/-! ## What a decision is -/

/-- The gateway row carries the request id and a cost, was not cached, and names
    no other account. -/
def GatewayLogRow.joins (log : GatewayLogRow) (event : LedgerEstimate) : Bool :=
  truthy log.requestId == some event.requestId && !log.cached && log.costMicroUsd.isSome &&
    (truthy log.accountId).all (· == event.accountId)

/-- The cost of a row that has one. -/
def GatewayLogRow.cost (log : GatewayLogRow) : Int := log.costMicroUsd.getD 0

/-- A row that joins is compared. -/
theorem decideAdjustment_of_joins {log : GatewayLogRow} {event : LedgerEstimate}
    (h : log.joins event = true) :
    decideAdjustment log (some event) = compareCost log.cost event := by
  simp only [GatewayLogRow.joins, Bool.and_eq_true, beq_iff_eq, Bool.not_eq_true'] at h
  obtain ⟨⟨⟨hrequest, hfresh⟩, hknown⟩, haccount⟩ := h
  obtain ⟨cost, hcost⟩ := Option.isSome_iff_exists.mp hknown
  unfold decideAdjustment
  simp only [hrequest, hfresh, hcost, GatewayLogRow.cost, Option.getD_some, Bool.false_eq_true,
    if_false]
  cases htag : truthy log.accountId with
  | none => rfl
  | some accountId =>
    simp only [htag, Option.all_some, beq_iff_eq] at haccount
    simp only [haccount, ne_eq, not_true_eq_false, if_false]

/-- What an adjustment says of the two rows: every refusal has passed, and they were compared. -/
theorem decideAdjustment_adjust {log : GatewayLogRow} {event : Option LedgerEstimate}
    {adjustment : Adjustment} (h : decideAdjustment log event = .adjust adjustment) :
    ∃ requestId estimate cost, truthy log.requestId = some requestId ∧ log.cached = false ∧
      log.costMicroUsd = some cost ∧ event = some estimate ∧
      (∀ accountId, truthy log.accountId = some accountId → accountId = estimate.accountId) ∧
      compareCost cost estimate = .adjust adjustment := by
  unfold decideAdjustment at h
  -- only a row with an id, not cached, with a cost and an estimate is compared
  split at h
  next => cases h
  next requestId hid =>
  split at h
  next => cases h
  next hfresh =>
  split at h
  next => cases h
  next cost hcost =>
  split at h
  next => cases h
  next estimate =>
    have hfresh' : log.cached = false := Bool.not_eq_true _ ▸ hfresh
    -- a row that is tagged must bear the account of the estimate
    split at h
    next hnone =>
      refine ⟨requestId, estimate, cost, hid, hfresh', hcost, rfl, ?_, h⟩
      intro accountId haccount
      cases hnone.symm.trans haccount
    next accountId htag =>
      split at h
      next => cases h
      next haccount =>
        refine ⟨requestId, estimate, cost, hid, hfresh', hcost, rfl, ?_, h⟩
        intro other hother
        cases htag.symm.trans hother
        exact Decidable.not_not.mp haccount

/-- Only a row that joins asks for an adjustment. -/
theorem joins_of_adjust {log : GatewayLogRow} {event : LedgerEstimate} {adjustment : Adjustment}
    (hrequest : event.requestId = log.requestId.getD "")
    (h : decideAdjustment log (some event) = .adjust adjustment) : log.joins event = true := by
  obtain ⟨requestId, _, cost, hid, hfresh, hcost, heq, haccount, -⟩ := decideAdjustment_adjust h
  cases heq
  have hsame : event.requestId = requestId := by
    obtain ⟨hlog, -⟩ := Option.filter_eq_some_iff.mp hid
    rw [hrequest, hlog, Option.getD_some]
  have htag : (truthy log.accountId).all (· == event.accountId) = true := by
    cases hid : truthy log.accountId with
    | none => rfl
    | some accountId => exact beq_iff_eq.mpr (haccount accountId hid)
  simp [GatewayLogRow.joins, hid, hsame, hfresh, hcost, htag]

/-- An adjustment is the outcome of a comparison. -/
theorem adjust_of_decideAdjustment {log : GatewayLogRow} {event : Option LedgerEstimate}
    {adjustment : Adjustment} (h : decideAdjustment log event = .adjust adjustment) :
    ∃ estimate, event = some estimate ∧
      ∃ cost, log.costMicroUsd = some cost ∧ compareCost cost estimate = .adjust adjustment := by
  obtain ⟨_, estimate, cost, -, -, hcost, hevent, -, hcompare⟩ := decideAdjustment_adjust h
  exact ⟨estimate, hevent, cost, hcost, hcompare⟩

/-- The signed effect of an adjustment on what was charged is its delta. -/
def Adjustment.signed (adjustment : Adjustment) : Int :=
  match adjustment.direction with
  | .spend => adjustment.appliedMicroUsd
  | .credit => -adjustment.appliedMicroUsd

/-- What an adjustment holds: the two amounts compared, their difference, and its
    size in the direction of its sign. -/
theorem compareCost_adjust {cost : Int} {event : LedgerEstimate} {adjustment : Adjustment}
    (h : compareCost cost event = .adjust adjustment) :
    adjustment.event = event ∧ adjustment.gatewayMicroUsd = cost ∧
    adjustment.estimateMicroUsd = event.charged ∧ 0 < adjustment.appliedMicroUsd ∧
    adjustment.signed = cost - event.charged ∧ cost ≠ event.charged := by
  unfold compareCost at h
  dsimp only at h
  split at h
  · cases h
  next hdelta =>
    obtain rfl := ReconcileOutcome.adjust.inj h
    refine ⟨rfl, rfl, rfl, by dsimp only; omega, ?_, by omega⟩
    by_cases hpos : cost - event.charged > 0
    · simp only [Adjustment.signed, hpos, if_true]
      omega
    · simp only [Adjustment.signed, hpos, if_false]
      omega

/-! ## What the watermark is -/

/-- The newest instant a run may call settled, or the newest row it processed
    where that is older: in milliseconds. -/
def watermarkCandidate (newestProcessed : Option Int) (nowMs : Int) : Int :=
  match newestProcessed with
  | some newest => min (dateParse newest) (nowMs - settleMs)
  | none => nowMs - settleMs

/-- The watermark moves to the candidate, where that is later. -/
theorem nextWatermark_eq (current : Int) (newestProcessed : Option Int) (nowMs : Int) :
    nextWatermark current newestProcessed nowMs =
      if watermarkCandidate newestProcessed nowMs ≤ dateParse current then none
      else some (toISOString (watermarkCandidate newestProcessed nowMs)) := by
  unfold nextWatermark watermarkCandidate
  cases newestProcessed with
  | none => rfl
  | some newest =>
    have hmin : (if dateParse newest < nowMs - settleMs then dateParse newest
        else nowMs - settleMs) = min (dateParse newest) (nowMs - settleMs) := by
      split <;> omega
    simp only [hmin]

end ControlPlane
