import ControlPlane.Spec.FeedReading

/-!
# True-ups and the monthly allowance

A charge is split between the allowance and prepaid credit when it is recorded.
Its true-up moves the whole difference on the prepaid columns, whatever pool the
estimate came from. The account ends where the split of the billed cost would have
put it exactly when both charges take the same part of the allowance.

## Key results

- `position_charge`: what a recorded charge takes from the prepaid position
- `position_settleLog`: what its true-up gives or takes
- `position_trueUp_iff`: when the two come to the split of the billed cost
-/

namespace ControlPlane

open Script

/-- Prepaid credit minus prepaid spend. -/
def Db.position (db : Db) (a : String) : Int :=
  db.credit a - db.spent a

/-- The same request, charged another amount. -/
def DoorRequest.charging (req : DoorRequest) (microUsd : Int) : DoorRequest :=
  { req with event := { req.event with microUsd := microUsd } }

/-- The database after a door settled a request: the split against the period as it
    stands, and the ledger write. -/
def Db.charge (db : Db) (plan : Plan) (req : DoorRequest) : Db :=
  ((req.splitAndRecord plan).run db).2

/-- The allowance left in the request's period. -/
def Db.allowanceLeft (db : Db) (plan : Plan) (req : DoorRequest) : Int :=
  remainingAllowanceMicroUsd plan.monthlyIncludedMicroUsd
    (db.allowanceSpent req.event.accountId req.event.periodKey)

/-- What a metered request takes from prepaid credit. -/
def Db.creditPart (db : Db) (plan : Plan) (req : DoorRequest) : Int :=
  req.event.microUsd - min req.event.microUsd (db.allowanceLeft plan req)

/-- A metered request of an account, new to the ledger. -/
structure NewRequest (db : Db) (req : DoorRequest) : Prop where
  metered : req.event.metered = true
  account : (db.accounts req.event.accountId).isSome
  charge : 0 ≤ req.event.microUsd
  fresh : ∀ row ∈ db.usageEvents, row.id ≠ req.event.id ∧ row.requestId ≠ req.event.requestId

/-! ## Recording the charge -/

section

variable {db : Db} {plan : Plan} {req : DoorRequest}

/-- The event the door records. -/
def DoorRequest.settled (req : DoorRequest) (plan : Plan) (db : Db) : UsageEvent :=
  if 0 < req.event.microUsd then
    req.event.withSplit plan.monthlyIncludedMicroUsd
      (db.usagePeriods req.event.accountId req.event.periodKey)
  else req.event.withoutSplit

/-- Both branches of the split leave everything but the two parts. -/
theorem DoorRequest.settled_same (req : DoorRequest) (plan : Plan) (db : Db) :
    (req.settled plan db).id = req.event.id ∧
    (req.settled plan db).requestId = req.event.requestId ∧
    (req.settled plan db).accountId = req.event.accountId ∧
    (req.settled plan db).metered = req.event.metered ∧
    (req.settled plan db).ledgerEstimate = req.event.ledgerEstimate := by
  unfold settled
  split <;> exact ⟨rfl, rfl, rfl, rfl, rfl⟩

theorem NewRequest.fromCredit_settled (h : NewRequest db req) (plan : Plan) :
    (req.settled plan db).fromCredit = db.creditPart plan req := by
  have hcharge := h.charge
  have hleft := remainingAllowanceMicroUsd_nonneg plan.monthlyIncludedMicroUsd
    (db.allowanceSpent req.event.accountId req.event.periodKey)
  have hmetered := (req.settled_same plan db).2.2.2.1.trans h.metered
  rw [UsageEvent.fromCredit, if_pos hmetered]
  unfold DoorRequest.settled Db.creditPart Db.allowanceLeft
  split
  -- a positive charge is split, and what the allowance does not take is from credit
  next hpos =>
    have hsplit := allocateCharge_spec req.event.microUsd plan.monthlyIncludedMicroUsd
      (db.allowanceSpent req.event.accountId req.event.periodKey) hcharge
    have hsum := hsplit.2.2.1
    have hallowance := hsplit.2.2.2
    simp only [UsageEvent.withSplit]
    have hread : ((db.usagePeriods req.event.accountId req.event.periodKey).map
        (·.allowanceSpentMicroUsd)).getD 0 =
        db.allowanceSpent req.event.accountId req.event.periodKey := rfl
    rw [hread]
    omega
  next hpos =>
    -- nothing charged: no split is made and no credit is used
    have hzero : req.event.microUsd = 0 := by omega
    simp only [UsageEvent.withoutSplit, hzero]
    omega

/-- A row whose id or request id is taken is ignored. -/
theorem run_recordUsage_ignored {event : UsageEvent} {createdAt : Int}
    (h : db.usageEvents.any (Db.eventConflict (event.row createdAt)) = true) :
    ((recordUsage event createdAt).run db).2 = db := by
  have hinsert : db.insertEvent (event.row createdAt) = (db, false) := by
    simp only [Db.insertEvent, Table.insertOrIgnore_of_any h]
  simp [recordUsage, exec, hinsert]

/-- A row that lands is followed by the counters. -/
theorem run_recordUsage_free {event : UsageEvent} {createdAt : Int}
    (h : db.usageEvents.any (Db.eventConflict (event.row createdAt)) = false) :
    ((recordUsage event createdAt).run db).2 =
      ((advanceCounters event).run
        { db with usageEvents := db.usageEvents ++ [event.row createdAt] }).2 := by
  have hinsert : db.insertEvent (event.row createdAt) =
      ({ db with usageEvents := db.usageEvents ++ [event.row createdAt] }, true) := by
    simp only [Db.insertEvent, Table.insertOrIgnore_of_not_any h]
  simp only [recordUsage, exec, bind_eq_bind, stmt_bind, done_bind, run_stmt, hinsert, if_true]

/-- What the ledger write of a new row leaves: the row, and the prepaid columns
    less its credit part. -/
theorem run_recordUsage_new (db : Db) (event : UsageEvent) (createdAt : Int)
    (hmetered : event.metered = true) (haccount : (db.accounts event.accountId).isSome)
    (hfresh : ∀ row ∈ db.usageEvents, row.id ≠ event.id ∧ row.requestId ≠ event.requestId)
    (hcredit : 0 ≤ event.fromCredit) :
    let db' := ((recordUsage event createdAt).run db).2
    db'.usageEvents = db.usageEvents ++ [event.row createdAt] ∧
    db'.usageAdjustments = db.usageAdjustments ∧
    (∀ a, (db'.accounts a).isSome = (db.accounts a).isSome) ∧
    (∀ a, db'.credit a = db.credit a) ∧
    db'.spent event.accountId = db.spent event.accountId + event.fromCredit := by
  -- no stored row has its id or its request, so the insert lands
  have hfree : db.usageEvents.any (Db.eventConflict (event.row createdAt)) = false := by
    refine List.any_eq_false.mpr (fun row hrow => ?_)
    obtain ⟨hid, hrequest⟩ := hfresh row hrow
    simp [Db.eventConflict, UsageEvent.row, hid, hrequest]
  simp only [run_recordUsage_free hfree, advanceCounters, advanceSpent, exec, bind_eq_bind,
    stmt_bind, done_bind, run_stmt, hmetered, true_and]
  split
  · simp only [run_stmt, run_done]
    refine ⟨rfl, rfl, fun a => by simp, fun a => by simp; rfl, ?_⟩
    rw [Db.spent_addSpent _ _ _ _ (by simpa using haccount), if_pos rfl]
    rfl
  -- without a share of the credit the account is not written
  next hnot =>
    simp only [pure_eq_done, run_done]
    refine ⟨rfl, rfl, fun a => rfl, fun a => rfl, ?_⟩
    have hzero : event.fromCredit = 0 := by omega
    rw [hzero, add_zero]
    rfl

theorem Db.creditPart_nonneg (db : Db) (plan : Plan) (req : DoorRequest) :
    0 ≤ db.creditPart plan req := by
  unfold Db.creditPart
  omega

/-- What the door's write leaves. -/
theorem NewRequest.run_charge (h : NewRequest db req) (plan : Plan) :
    (db.charge plan req).usageEvents =
      db.usageEvents ++ [(req.settled plan db).row req.createdAt] ∧
    (db.charge plan req).usageAdjustments = db.usageAdjustments ∧
    ((db.charge plan req).accounts req.event.accountId).isSome ∧
    (db.charge plan req).credit req.event.accountId = db.credit req.event.accountId ∧
    (db.charge plan req).spent req.event.accountId =
      db.spent req.event.accountId + db.creditPart plan req := by
  obtain ⟨hid, hrequest, haccount, hmetered, -⟩ := req.settled_same plan db
  have hcharge : db.charge plan req =
      ((recordUsage (req.settled plan db) req.createdAt).run db).2 := by
    simp only [Db.charge, DoorRequest.splitAndRecord, getPeriod, bind_eq_bind, run_bind, run_read]
    rfl
  have hcredit := h.fromCredit_settled plan
  obtain ⟨hevents, hadjustments, haccounts, hcredits, hspent⟩ := run_recordUsage_new db
    (req.settled plan db) req.createdAt (hmetered.trans h.metered)
    (haccount ▸ h.account) (fun row hrow => by rw [hid, hrequest]; exact h.fresh row hrow)
    (hcredit ▸ db.creditPart_nonneg plan req)
  rw [haccount, hcredit] at hspent
  exact ⟨hcharge ▸ hevents, hcharge ▸ hadjustments,
    by rw [hcharge, haccounts]; exact h.account, by rw [hcharge, hcredits], by rw [hcharge, hspent]⟩

/-- A recorded charge takes its credit part from the prepaid position. -/
theorem NewRequest.position_charge (h : NewRequest db req) (plan : Plan) :
    (db.charge plan req).position req.event.accountId =
      db.position req.event.accountId - db.creditPart plan req := by
  obtain ⟨-, -, -, hcredit, hspent⟩ := h.run_charge plan
  rw [Db.position, Db.position, hcredit, hspent]
  omega

/-! ## The true-up -/

/-- A comparison settles the difference on the prepaid position, and gives the
    downward part of it as credit. -/
theorem position_settleLog (id : String) {log : GatewayLogRow} {row : UsageEventRow}
    (hjoined : db.joined log = some row) (hjoins : log.joins row.ledgerEstimate = true)
    (haccount : (db.accounts row.accountId).isSome)
    (hfree : ∀ stored ∈ db.usageAdjustments,
      stored.id ≠ id ∧ stored.idempotencyKey ≠ adjustmentIdempotencyKey log.id) :
    (db.settleLog id log).position row.accountId =
      db.position row.accountId + (row.ledgerEstimate.charged - log.cost) ∧
    (db.settleLog id log).credit row.accountId =
      db.credit row.accountId + max 0 (row.ledgerEstimate.charged - log.cost) := by
  have houtcome : db.outcome log = compareCost log.cost row.ledgerEstimate := by
    rw [Db.outcome, hjoined]
    exact decideAdjustment_of_joins hjoins
  cases hcompare : compareCost log.cost row.ledgerEstimate with
  | skipped reason detail =>
    simp only [compareCost] at hcompare
    split at hcompare <;> cases hcompare
  -- nothing is written, and there is no difference
  | inAgreement microUsd event =>
    have hsame : log.cost - row.ledgerEstimate.charged = 0 := by
      simp only [compareCost] at hcompare
      split at hcompare
      · assumption
      · cases hcompare
    have hnothing : db.settleLog id log = db := by simp [Db.settleLog, houtcome, hcompare]
    rw [hnothing]
    omega
  -- one row lands and moves its amount in its direction
  | adjust adjustment =>
    obtain ⟨hevent, -, -, hpos, hsigned, -⟩ := compareCost_adjust hcompare
    have hsettle : db.settleLog id log =
        ((applyUsageAdjustment (adjustmentRow id log adjustment)).run db).2 := by
      simp [Db.settleLog, houtcome, hcompare]
    have hlanded : db.adjustmentTaken (adjustmentRow id log adjustment) = false :=
      db.adjustmentTaken_eq_false (fun stored hstored => (hfree stored hstored).1)
        (fun stored hstored => (hfree stored hstored).2)
    have hid : (adjustmentRow id log adjustment).accountId = row.accountId := by
      simp only [adjustmentRow, hevent]; rfl
    have hsome : ((db.addAdjustment (adjustmentRow id log adjustment)).accounts
        (adjustmentRow id log adjustment).accountId).isSome := by
      rw [hid]; exact haccount
    rw [hsettle, run_applyUsageAdjustment_free hlanded]
    simp only [Db.position, Db.credit_moveMoney _ _ _ hsome, Db.spent_moveMoney _ _ _ hsome,
      UsageAdjustmentRow.creditShare, UsageAdjustmentRow.spentShare, hid, if_true,
      Db.addAdjustment_credit, Db.addAdjustment_spent]
    -- the direction is the sign of the difference
    simp only [Adjustment.signed] at hsigned
    have hdirection : (adjustmentRow id log adjustment).direction = adjustment.direction := rfl
    have hamount : (adjustmentRow id log adjustment).appliedMicroUsd =
        adjustment.appliedMicroUsd := rfl
    rw [hdirection, hamount]
    cases hd : adjustment.direction <;> simp only [hd] at hsigned <;>
      simp only [reduceCtorEq, if_true, if_false] <;> omega

/-- A log row of a new request joins the row the door recorded for it. -/
theorem NewRequest.joined_charge (h : NewRequest db req) (plan : Plan) {log : GatewayLogRow}
    (hjoins : log.joins req.event.ledgerEstimate = true) :
    (db.charge plan req).joined log = some ((req.settled plan db).row req.createdAt) := by
  obtain ⟨hevents, -⟩ := h.run_charge plan
  obtain ⟨-, hrequest, -⟩ := req.settled_same plan db
  simp only [GatewayLogRow.joins, Bool.and_eq_true, beq_iff_eq] at hjoins
  obtain ⟨hlog, -⟩ := Option.filter_eq_some_iff.mp hjoins.1.1.1
  have hid : log.requestId.getD "" = req.event.requestId := by rw [hlog]; rfl
  -- no older row has the request's id, so the lookup reaches the row just added
  have hold : db.usageEvents.find? (fun row => row.requestId == req.event.requestId) = none :=
    List.find?_eq_none.mpr (fun row hrow => by simpa using (h.fresh row hrow).2)
  have hnew : ((req.settled plan db).row req.createdAt).requestId = req.event.requestId := hrequest
  rw [Db.joined, hid, hevents, List.find?_append, hold]
  simp [hnew]

/-- A request is charged its estimate and trued up by its one gateway row: its prepaid
    position is the one the billed cost would have given against the same
    allowance, and the true-up gave no more credit than the request took, exactly
    when the cost is the estimate or both use up the allowance that was left. -/
theorem position_trueUp_iff (h : NewRequest db req) (plan : Plan) (args : ReconcileRunArgs)
    (hlive : args.dryRun = false) (log : GatewayLogRow) (st : LoopState)
    (hjoins : log.joins req.event.ledgerEstimate = true) (hcost : 0 ≤ log.cost)
    (hfree : ∀ stored ∈ db.usageAdjustments,
      stored.id ≠ args.newId st.minted ∧ stored.idempotencyKey ≠ adjustmentIdempotencyKey log.id) :
    let charged := db.charge plan req
    let truedUp := ((args.processRow log st).run charged).2
    let a := req.event.accountId
    (truedUp.position a = (db.charge plan (req.charging log.cost)).position a ∧
        truedUp.credit a - charged.credit a ≤ db.creditPart plan req) ↔
      log.cost = req.event.microUsd ∨
        (db.allowanceLeft plan req ≤ req.event.microUsd ∧
          db.allowanceLeft plan req ≤ log.cost) := by
  intro charged truedUp a
  obtain ⟨-, -, haccount, hmetered, hestimate⟩ := req.settled_same plan db
  obtain ⟨hevents, hadjustments, hsome, -, -⟩ := h.run_charge plan
  have hrow : ((req.settled plan db).row req.createdAt).ledgerEstimate =
      req.event.ledgerEstimate := hestimate
  have haccount' : ((req.settled plan db).row req.createdAt).accountId = a := haccount
  have hcharged : req.event.ledgerEstimate.charged = req.event.microUsd := if_pos h.metered
  obtain ⟨-, -, -, hsettle, -⟩ := ReconcileRunArgs.run_processRow hlive log st charged
  -- the comparison joins the row the charge has just written
  obtain ⟨hposition, hcredit⟩ := position_settleLog (args.newId st.minted)
    (h.joined_charge plan hjoins) (by rw [hrow]; exact hjoins) (by rw [haccount']; exact hsome)
    (by rw [hadjustments]; exact hfree)
  rw [hrow, haccount', hcharged] at hposition hcredit
  have hexact : NewRequest db (req.charging log.cost) := ⟨h.metered, h.account, hcost, h.fresh⟩
  have hestimated := h.position_charge plan
  have hbilled := hexact.position_charge plan
  simp only [truedUp, hsettle]
  rw [hposition, hcredit]
  simp only [charged, a] at *
  rw [hestimated]
  -- both positions are the start less a credit part; what is left is arithmetic
  have hcostPart : db.creditPart plan (req.charging log.cost) =
      log.cost - min log.cost (db.allowanceLeft plan req) := rfl
  have hestimatePart : db.creditPart plan req =
      req.event.microUsd - min req.event.microUsd (db.allowanceLeft plan req) := rfl
  have haccountSame : (req.charging log.cost).event.accountId = req.event.accountId := rfl
  rw [haccountSame] at hbilled
  rw [hbilled, hcostPart, hestimatePart]
  omega

end

/-! ## An overestimate inside the allowance -/

/-- A plan with a monthly allowance of 1000. -/
def allowancePlan : Plan := ⟨"free", "Free", 0, 1000, 60, 1000, [.standard]⟩

/-- A request of 100 that the allowance covers. -/
def coveredRequest : DoorRequest where
  door := .chat
  event := chargedEvent.toUsageEvent
  answered := true
  units := 1
  minCharge := 0
  createdAt := 0

/-- The account without any prepaid credit. -/
def creditlessStore : Db :=
  .withAccount ⟨"free", "Free", 0, 1000, 60, 1000, "[]"⟩ ⟨"acct", "free", none, none, 0, 0⟩

/-- The allowance paid the 100, the gateway billed 60, and the account ends with 40 of
    prepaid credit it never bought. -/
theorem position_trueUp_overestimate :
    let charged := creditlessStore.charge allowancePlan coveredRequest
    let truedUp := (((billedRun [] "a" 0).live.processRow (billedLog "log-1" 60) .start).run
      charged).2
    truedUp.position "acct" = 40 ∧
    (creditlessStore.charge allowancePlan (coveredRequest.charging 60)).position "acct" = 0 ∧
    truedUp.credit "acct" - charged.credit "acct" = 40 ∧
    creditlessStore.creditPart allowancePlan coveredRequest = 0 := by
  decide +kernel

/-- Where the allowance is used up by both amounts, the true-up is the split's. -/
theorem position_trueUp_used_up :
    let db := creditlessStore.upsertPeriod "acct" "2026-08"
      (fun row => { row with allowanceSpentMicroUsd := 980 })
    let truedUp := (((billedRun [] "a" 0).live.processRow (billedLog "log-1" 60) .start).run
      (db.charge allowancePlan coveredRequest)).2
    truedUp.position "acct" = -40 ∧
    (db.charge allowancePlan (coveredRequest.charging 60)).position "acct" = -40 := by
  intro db truedUp
  have hnew : NewRequest db coveredRequest :=
    ⟨rfl, by decide +kernel, by decide, by simp [db, creditlessStore, Db.withAccount, Db.empty]⟩
  have hiff := position_trueUp_iff hnew allowancePlan (billedRun [] "a" 0).live rfl
    (billedLog "log-1" 60) .start (by decide) (by decide)
    (by simp [db, creditlessStore, Db.withAccount, Db.empty])
  have hsame := (hiff.mpr (.inr (by decide +kernel))).1
  have hbilled : (db.charge allowancePlan (coveredRequest.charging 60)).position "acct" = -40 := by
    decide +kernel
  exact ⟨hsame.trans hbilled, hbilled⟩

end ControlPlane
