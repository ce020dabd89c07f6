import ControlPlane.ForStd.Pool
import ControlPlane.Spec.LedgerConservation
import ControlPlane.Spec.SpendGate

/-!
# How far one account can overshoot its pools

The requests of one account at the metered doors, in any interleaving of their
statements, run the abstract spend gate: `DoorPhase` is where a request stands,
`DoorPhase.token` is the same request at the gate, and every statement is a few
moves of its token (`Setting.advance`). The bounds of the gate are then bounds
on the ledger rows and on the period counter.

## Key results

- `Setting.refines`: every run of the doors is a run of the gate
- `overshoot_bounded`: with `k` requests under way together, the rows stay below
  both pools plus `2 * k - 1` charges, the allowance counter below its pool plus
  `k - 1`
-/

namespace ControlPlane

open Script SpendGate

/-- The metered rows of an account, summed. -/
def Db.recorded (db : Db) (accountId : String) : Int :=
  Table.sumWhere (fun row => row.accountId == accountId && row.metered) (·.microUsd)
    db.usageEvents

/-- One account in one period, on a plan that stays, with credit that stays. -/
structure Setting where
  accountId : String
  periodKey : String
  planId : String
  planRow : PlanRow
  plan : Plan
  limits : Limits
  plan_ok : planFromRow planRow = .ok plan
  included_eq : plan.monthlyIncludedMicroUsd = limits.included

namespace Setting

variable (S : Setting)

/-- What stays fixed: the account's plan and credit, and the plan itself. -/
def Fixed (db : Db) : Prop :=
  (∃ row, db.accounts S.accountId = some row ∧ row.planId = S.planId ∧
    row.creditMicroUsd = S.limits.credit) ∧
  db.plans S.planId = some S.planRow

/-- Nothing is spent yet. -/
def Start (db : Db) : Prop :=
  S.Fixed db ∧ db.allowanceSpent S.accountId S.periodKey = 0 ∧ db.spent S.accountId = 0 ∧
    db.recorded S.accountId = 0

/-- A request of the account in the period, with a charge up to the largest. -/
def Request (req : DoorRequest) : Prop :=
  req.event.accountId = S.accountId ∧ req.event.periodKey = S.periodKey ∧
    0 ≤ req.event.microUsd ∧ req.event.microUsd ≤ S.limits.largest

/-- The calls: whole requests at the doors. -/
def Call (p : Script Db Unit) : Prop :=
  ∃ req : DoorRequest, S.Request req ∧ p = req.run

/-- The pools of the gate, read off the database. -/
def pools (db : Db) : Pools :=
  ⟨db.allowanceSpent S.accountId S.periodKey, db.spent S.accountId, db.recorded S.accountId⟩

end Setting

/-! ## Where a request stands -/

/-- The point a request has reached. `opened` says whether a pool had room when
    it started. -/
inductive DoorPhase where
  | gate (req : DoorRequest) (opened : Bool)
  | atAccount (req : DoorRequest) (row : AccountRow) (opened : Bool)
  | atPeriod (req : DoorRequest) (row : AccountRow) (plan : Plan) (opened : Bool)
  | atWorkflow (req : DoorRequest) (plan : Plan)
  | atStt (req : DoorRequest)
  | atFinalize (req : DoorRequest) (account : Option AccountRow)
  | splitting (req : DoorRequest) (plan : Plan)
  | recording (event : UsageEvent) (createdAt : Int)
  | counting (event : UsageEvent)
  | spending (event : UsageEvent)
  | finished

namespace DoorPhase

/-- What is left to execute in a phase. -/
def script (S : Setting) : DoorPhase → Script Db Unit
  | .gate req _ => req.run
  | .atAccount req row _ => req.gateAccount (some row)
  | .atPeriod req row plan _ => req.gatePeriod row plan
  | .atWorkflow req plan => req.settleWorkflow plan
  | .atStt req => req.settleStt S.planId
  | .atFinalize req account => req.finalizeAccount S.planId account
  | .splitting req plan => req.splitAndRecord plan
  | .recording event createdAt => recordUsage event createdAt
  | .counting event => advanceCounters event
  | .spending event => advanceSpent event
  | .finished => .done ()

/-- The phase as the spend gate sees it. -/
def token : DoorPhase → Token
  | .gate req opened | .atAccount req _ opened | .atPeriod req _ _ opened =>
    .waiting req.event.microUsd opened
  | .atWorkflow req _ | .atStt req | .atFinalize req _ | .splitting req _ =>
    .admitted req.event.microUsd
  | .recording event _ => .priced event.fromAllowance event.fromCredit
  | .counting event => .stored event.fromAllowance event.fromCredit
  | .spending event => .spending event.fromCredit
  | .finished => .finished

/-- What a phase carries belongs to the setting. -/
def Ok (S : Setting) : DoorPhase → Prop
  | .gate req _ => S.Request req
  | .atAccount req row opened => S.Request req ∧ row.suspendedAt = none ∧ row.planId = S.planId ∧
      row.creditMicroUsd = S.limits.credit ∧ (opened = false → S.limits.credit ≤ row.spentMicroUsd)
  | .atPeriod req row plan opened => S.Request req ∧ row.planId = S.planId ∧ plan = S.plan ∧
      row.creditMicroUsd = S.limits.credit ∧ (opened = false → S.limits.credit ≤ row.spentMicroUsd)
  | .atWorkflow req plan | .splitting req plan => S.Request req ∧ plan = S.plan
  | .atStt req | .atFinalize req _ => S.Request req
  | .recording event _ | .counting event => event.accountId = S.accountId ∧
      event.periodKey = S.periodKey ∧ DoorBuilt event
  | .spending event => event.accountId = S.accountId ∧ event.metered = true ∧ 0 < event.fromCredit
  | .finished => True

/-- A request is under way exactly as long as its script has statements left. -/
theorem live_token {S : Setting} {phase : DoorPhase} (h : phase.Ok S) :
    phase.token.live = if (phase.script S).isDone then 0 else 1 := by
  cases phase with
  | atAccount req row opened =>
    have : row.suspendedAt.isSome = false := by rw [h.2.1]; rfl
    simp [script, token, Token.live, DoorRequest.gateAccount, this, getPlan, Script.read]
  | spending event =>
    simp [script, token, Token.live, advanceSpent, Script.exec, h.2.1, h.2.2]
  | _ => rfl

end DoorPhase

/-! ## Moves -/

/-- Any number of moves of one token. -/
abbrev Moves (L : Limits) (p : Pools) (t : Token) (p' : Pools) (t' : Token) : Prop :=
  Relation.ReflTransGen (fun x y : Pools × Token => Move L x.1 x.2 y.1 y.2) (p, t) (p', t')

/-- Two moves in a row. -/
theorem Moves.two {L : Limits} {p p' p'' : Pools} {t t' t'' : Token} (h : Move L p t p' t')
    (h' : Move L p' t' p'' t'') : Moves L p t p'' t'' :=
  have hfst : Moves L p t p' t' := .single h
  hfst.tail h'

/-- The moves of one request among the others. -/
theorem Moves.reach {L : Limits} {p p' : Pools} {t t' : Token} (h : Moves L p t p' t')
    (pre post : List Token) : Reach L ⟨p, pre ++ t :: post⟩ ⟨p', pre ++ t' :: post⟩ :=
  Relation.ReflTransGen.lift
    (fun x : Pools × Token => (⟨x.1, pre ++ x.2 :: post⟩ : State))
    (fun _ _ hmove => Step.move pre post hmove) _ _ h

namespace Setting

variable {S : Setting}

/-- What the statement `db ↦ db'` of a phase is at the gate. -/
def Advances (S : Setting) (db db' : Db) (phase phase' : DoorPhase) : Prop :=
  S.Fixed db' ∧ phase'.Ok S ∧ Moves S.limits (S.pools db) phase.token (S.pools db') phase'.token

/-- A charge split against the period as it is now is a split at the gate. -/
theorem move_withSplit {db : Db} {req : DoorRequest} (hreq : S.Request req)
    (hnonneg : 0 ≤ db.allowanceSpent S.accountId S.periodKey) :
    let event := req.event.withSplit S.plan.monthlyIncludedMicroUsd
      (db.usagePeriods req.event.accountId req.event.periodKey)
    Move S.limits (S.pools db) (.admitted req.event.microUsd) (S.pools db)
      (.priced event.fromAllowance event.fromCredit) := by
  intro event
  obtain ⟨hacct, hkey, hmicro, -⟩ := hreq
  -- the gate of the model reads the allowance of the same period
  have hread : ((db.usagePeriods req.event.accountId req.event.periodKey).map
      (·.allowanceSpentMicroUsd)).getD 0 = db.allowanceSpent S.accountId S.periodKey := by
    rw [hacct, hkey]; rfl
  have hspec := allocateCharge_spec req.event.microUsd S.plan.monthlyIncludedMicroUsd
    (db.allowanceSpent S.accountId S.periodKey) hmicro
  simp only [remainingAllowanceMicroUsd, S.included_eq] at hspec
  have hincluded := S.limits.included_nonneg
  have hpools : (S.pools db).allowance = db.allowanceSpent S.accountId S.periodKey := rfl
  rw [if_neg (by omega), if_neg (by omega)] at hspec
  obtain ⟨ha, hc, hsum, hmin⟩ := hspec
  simp only [event, UsageEvent.withSplit, UsageEvent.fromAllowance, UsageEvent.fromCredit, hread,
    S.included_eq]
  by_cases hm : req.event.metered = true
  · simp only [hm, if_true]
    exact .split _ _ _ _ ha hc (by omega) (by omega) (fun hpos => by omega)
  · simp only [hm, Bool.false_eq_true, if_false]
    exact .split _ _ _ _ le_rfl le_rfl (by omega) (by omega) (by omega)

/-- A row with neither pool touched is a split of nothing. -/
theorem move_unsplit {p : Pools} {charge : Int} {event : UsageEvent} (hcharge : 0 ≤ charge)
    (ha : event.fromAllowanceMicroUsd = 0) (hc : event.fromCreditMicroUsd = 0) :
    Move S.limits p (.admitted charge) p (.priced event.fromAllowance event.fromCredit) := by
  have ha' : event.fromAllowance = 0 := by simp [UsageEvent.fromAllowance, ha]
  have hc' : event.fromCredit = 0 := by simp [UsageEvent.fromCredit, hc]
  rw [ha', hc']
  exact .split _ _ _ _ le_rfl le_rfl (by omega) (by omega) (by omega)

/-- An open gate saw room in the period or in the account row. -/
theorem room_of_admits {req : DoorRequest} {row : AccountRow} {period : Option PeriodRow}
    (h : req.admits row S.plan period = true) :
    ((period.map (·.allowanceSpentMicroUsd)).getD 0) < S.limits.included ∨
      row.spentMicroUsd < row.creditMicroUsd := by
  unfold DoorRequest.admits at h
  dsimp only at h
  split at h
  next total allowance credit hdecide =>
    have hroom := (decideBalance_allow_iff _).mp ⟨total, allowance, credit, hdecide⟩
    simpa only [S.included_eq] using hroom.2.2.2.2
  next => cases h

/-- Where a request stands once the gate has let it through. -/
theorem settle_phase {req : DoorRequest} (hreq : S.Request req) (p : Pools) :
    ∃ phase : DoorPhase, phase.script S = req.settle S.plan S.planId ∧ phase.Ok S ∧
      Moves S.limits p (.admitted req.event.microUsd) p phase.token := by
  unfold DoorRequest.settle
  -- a call that was not answered charges nothing
  split
  · exact ⟨.finished, rfl, trivial, .single (.drop _ _)⟩
  split
  · unfold DoorRequest.settleChat
    split
    · exact ⟨.splitting req S.plan, rfl, ⟨hreq, rfl⟩, .refl⟩
    -- a metered charge of nothing takes nothing of either pool
    next hfree =>
      refine ⟨.recording req.event.withoutSplit req.createdAt, rfl, ⟨hreq.1, hreq.2.1, ?_⟩,
        .single (move_unsplit hreq.2.2.1 rfl rfl)⟩
      have := hreq.2.2.1
      exact .unsplit _ (fun hm => by simp only [hm, true_and] at hfree; omega)
  · unfold DoorRequest.settleNonChat
    split
    · exact ⟨.splitting req S.plan, rfl, ⟨hreq, rfl⟩, .refl⟩
    next hm =>
      exact ⟨.recording req.event.withoutSplit req.createdAt, rfl,
        ⟨hreq.1, hreq.2.1, .unsplit _ (fun hm' => absurd hm' hm)⟩,
        .single (move_unsplit hreq.2.2.1 rfl rfl)⟩
  -- a workflow and a session record later
  · exact ⟨.atWorkflow req S.plan, rfl, ⟨hreq, rfl⟩, .refl⟩
  · exact ⟨.atStt req, rfl, hreq, .refl⟩

/-- Where a speech session stands once its account and plan are read again. -/
theorem finalize_phase {req : DoorRequest} (hreq : S.Request req) (row : AccountRow) (p : Pools) :
    ∃ phase : DoorPhase, phase.script S = req.finalizeWith S.planId row (some S.planRow) ∧
      phase.Ok S ∧ Moves S.limits p (.admitted req.event.microUsd) p phase.token := by
  unfold DoorRequest.finalizeWith
  split
  -- not metered: the row is written without a split
  next hm =>
    exact ⟨.recording req.event.withoutSplit req.createdAt, rfl,
      ⟨hreq.1, hreq.2.1, .unsplit _ (fun hm' => by simp [hm] at hm')⟩,
      .single (move_unsplit hreq.2.2.1 rfl rfl)⟩
  split
  -- suspended since: the row is a gap
  · exact ⟨.recording _ req.createdAt, rfl, ⟨hreq.1, hreq.2.1, .unmetered _ _⟩,
      .single (move_unsplit hreq.2.2.1 rfl rfl)⟩
  · simp only [S.plan_ok]
    exact ⟨.splitting req S.plan, rfl, ⟨hreq, rfl⟩, .refl⟩

/-- The gate's three reads. -/
theorem advance_gate {db : Db} {req : DoorRequest} {opened : Bool} (hfix : S.Fixed db)
    (hok : (DoorPhase.gate req opened).Ok S)
    (htok : (DoorPhase.gate req opened).token.Ok S.limits (S.pools db)) :
    ∃ phase', phase'.script S = req.gateAccount (db.accounts req.event.accountId) ∧
      S.Advances db db (.gate req opened) phase' := by
  obtain ⟨row, hrow, hplan, hcredit⟩ := hfix.1
  have hreq : S.Request req := hok
  rw [hreq.1, hrow]
  cases hs : row.suspendedAt with
  -- a suspended account is refused
  | some t =>
    refine ⟨.finished, ?_, hfix, trivial, .single (.refuse _ _ _)⟩
    simp [DoorPhase.script, DoorRequest.gateAccount, hs]
  | none =>
    refine ⟨.atAccount req row opened, rfl, hfix, ⟨hreq, hs, hplan, hcredit, ?_⟩, .refl⟩
    -- a gate that found credit used up finds it so now: spend only grows
    intro hclosed
    have hspent : (S.pools db).spent = row.spentMicroUsd := by simp [pools, Db.spent, hrow]
    exact hspent ▸ (htok.2.2 hclosed).2

/-- From the account the request goes on to its plan. -/
theorem advance_atAccount {db : Db} {req : DoorRequest} {row : AccountRow} {opened : Bool}
    (hfix : S.Fixed db) (hok : (DoorPhase.atAccount req row opened).Ok S) :
    ∃ phase', phase'.script S = req.gatePlan row (db.plans row.planId) ∧
      S.Advances db db (.atAccount req row opened) phase' := by
  obtain ⟨hreq, -, hplan, hcredit, hclosed⟩ := hok
  refine ⟨.atPeriod req row S.plan opened, ?_, hfix, ⟨hreq, hplan, rfl, hcredit, hclosed⟩, .refl⟩
  rw [hplan, hfix.2]
  simp only [DoorPhase.script, DoorRequest.gatePlan, S.plan_ok]

/-- The gate lets a request through only if it started while a pool had room. -/
theorem advance_atPeriod {db : Db} {req : DoorRequest} {row : AccountRow} {plan : Plan}
    {opened : Bool} (hfix : S.Fixed db) (hok : (DoorPhase.atPeriod req row plan opened).Ok S)
    (htok : (DoorPhase.atPeriod req row plan opened).token.Ok S.limits (S.pools db)) :
    ∃ phase', phase'.script S =
        (if req.admits row plan (db.usagePeriods req.event.accountId req.event.periodKey) then
          req.settle plan row.planId else .done ()) ∧
      S.Advances db db (.atPeriod req row plan opened) phase' := by
  obtain ⟨hreq, hplan, rfl, hcredit, hclosed⟩ := hok
  split
  next hadmits =>
    have hroom := S.room_of_admits hadmits
    rw [hreq.1, hreq.2.1] at hroom
    cases opened with
    | false =>
      -- both pools were used up already, in the row as in the period
      have hfull := (htok.2.2 rfl).1
      have := hclosed rfl
      simp only [pools, Db.allowanceSpent, Db.periodColumn] at hfull
      omega
    | true =>
      obtain ⟨phase', hscript, hok', hmoves⟩ := S.settle_phase hreq (S.pools db)
      rw [hplan]
      exact ⟨phase', hscript, hfix, hok', .head (.pass _ _) hmoves⟩
  next => exact ⟨.finished, rfl, hfix, trivial, .single (.refuse _ _ _)⟩

/-- Splitting the charge fixes what the request takes of either pool. -/
theorem advance_splitting {db : Db} {req : DoorRequest} {plan : Plan} (hfix : S.Fixed db)
    (hok : (DoorPhase.splitting req plan).Ok S)
    (hnonneg : 0 ≤ db.allowanceSpent S.accountId S.periodKey) :
    ∃ phase', phase'.script S = recordUsage (if 0 < req.event.microUsd then
        req.event.withSplit plan.monthlyIncludedMicroUsd
          (db.usagePeriods req.event.accountId req.event.periodKey)
        else req.event.withoutSplit) req.createdAt ∧
      S.Advances db db (.splitting req plan) phase' := by
  obtain ⟨hreq, rfl⟩ := hok
  have hmicro := hreq.2.2.1
  refine ⟨.recording _ req.createdAt, rfl, hfix, ?_, ?_⟩
  · split
    · exact ⟨hreq.1, hreq.2.1, .split _ _ _ hmicro⟩
    · exact ⟨hreq.1, hreq.2.1, .unsplit _ (fun _ => by omega)⟩
  -- with a charge the row is split against the period as it is now
  · split
    · exact .single (S.move_withSplit hreq hnonneg)
    · exact .single (S.move_unsplit hmicro rfl rfl)

/-- The row of a door is worth what it takes from the two pools. -/
theorem recorded_append {db : Db} {event : UsageEvent} (hacct : event.accountId = S.accountId)
    (hbuilt : DoorBuilt event) (createdAt : Int) :
    ({ db with usageEvents := db.usageEvents ++ [event.row createdAt] } : Db).recorded S.accountId =
      db.recorded S.accountId + (event.fromAllowance + event.fromCredit) := by
  have hacct' : (event.row createdAt).accountId = S.accountId := hacct
  cases hm : event.metered with
  | false => simp [Db.recorded, UsageEvent.row, UsageEvent.fromAllowance, UsageEvent.fromCredit, hm]
  | true =>
    have := hbuilt.accounts hm
    simp [Db.recorded, UsageEvent.row, UsageEvent.fromAllowance, UsageEvent.fromCredit, hm, hacct,
      this]

/-- Recording the row moves it into the ledger. -/
theorem advance_recording {db : Db} {event : UsageEvent} {createdAt : Int} (hfix : S.Fixed db)
    (hok : (DoorPhase.recording event createdAt).Ok S) :
    ∃ phase', phase'.script S = (if (db.insertEvent (event.row createdAt)).2
        then advanceCounters event else pure ()) ∧
      S.Advances db (db.insertEvent (event.row createdAt)).1
        (.recording event createdAt) phase' := by
  rcases db.insertEvent_cases (event.row createdAt) with h | h
  -- ignored, or landed with what it takes from both pools
  · rw [h]
    exact ⟨.finished, rfl, hfix, trivial, .single (.ignore _ _ _)⟩
  · rw [h]
    refine ⟨.counting event, rfl, hfix, hok, ?_⟩
    have hpools : S.pools { db with usageEvents := db.usageEvents ++ [event.row createdAt] } =
        { S.pools db with
          recorded := (S.pools db).recorded + (event.fromAllowance + event.fromCredit) } := by
      simp only [pools, recorded_append hok.1 hok.2.2]
      rfl
    rw [hpools]
    exact .single (.store _ _ _)

/-- Counting the period moves the allowance. -/
theorem advance_counting {db : Db} {event : UsageEvent} (hfix : S.Fixed db)
    (hok : (DoorPhase.counting event).Ok S)
    (htok : (DoorPhase.counting event).token.Ok S.limits (S.pools db)) :
    ∃ phase', phase'.script S = advanceSpent event ∧
      S.Advances db (db.upsertPeriod event.accountId event.periodKey event.advancePeriod)
        (.counting event) phase' := by
  -- of the counters the upsert moves only the allowance column is a pool
  have hpools : S.pools (db.upsertPeriod event.accountId event.periodKey event.advancePeriod) =
      { S.pools db with allowance := (S.pools db).allowance + event.fromAllowance } := by
    have h := congrFun (db.counter_upsertPeriod_event event)
      (.allowanceSpent S.accountId S.periodKey)
    simp only [Db.counter, Pi.add_apply, UsageEvent.periodShare, hok.1, hok.2.1, and_self,
      if_true] at h
    simp only [pools, hok.1, hok.2.1, h]
    rfl
  have hadvance : Move S.limits (S.pools db) (.stored event.fromAllowance event.fromCredit)
      { S.pools db with allowance := (S.pools db).allowance + event.fromAllowance }
      (.spending event.fromCredit) := .advance _ _ _
  by_cases hspend : event.metered = true ∧ 0 < event.fromCredit
  · refine ⟨.spending event, rfl, hfix, ⟨hok.1, hspend⟩, ?_⟩
    rw [hpools]
    exact .single hadvance
  · refine ⟨.finished, ?_, hfix, trivial, ?_⟩
    · simp [DoorPhase.script, advanceSpent, hspend]
    · -- nothing is taken from credit, so the missing write changes nothing
      have hzero : event.fromCredit = 0 := by
        have hnonneg : 0 ≤ event.fromCredit := htok.2.1
        by_cases hm : event.metered = true
        · simp only [hm, true_and] at hspend; omega
        · simp [UsageEvent.fromCredit, hm]
      rw [hpools]
      refine .two hadvance ?_
      simpa [hzero, DoorPhase.token] using Move.spend
        { S.pools db with allowance := (S.pools db).allowance + event.fromAllowance } 0

/-- Spending moves the credit, and the request is finished. -/
theorem advance_spending {db : Db} {event : UsageEvent} (hfix : S.Fixed db)
    (hok : (DoorPhase.spending event).Ok S) :
    S.Advances db (db.updateAccount event.accountId (.addSpent event.fromCredit))
      (.spending event) .finished := by
  obtain ⟨⟨row, hrow, hplan, hcredit⟩, hplans⟩ := hfix
  have hsome : (db.accounts event.accountId).isSome := by simp [hok.1, hrow]
  refine ⟨⟨⟨row.addSpent event.fromCredit, ?_, hplan, hcredit⟩, hplans⟩, trivial, ?_⟩
  · simp [Db.updateAccount, hok.1, hrow]
  -- the pool of the account moves by the credit the row took
  · have hpools : S.pools (db.updateAccount event.accountId (.addSpent event.fromCredit)) =
        { S.pools db with spent := (S.pools db).spent + event.fromCredit } := by
      have h := db.spent_addSpent event.accountId S.accountId event.fromCredit hsome
      simp only [hok.1, if_true] at h
      simp only [pools, hok.1, h]
      rfl
    rw [hpools]
    exact .single (.spend _ _)

/-- One statement of one request. -/
theorem advance {db : Db} {phase : DoorPhase} {effect : Db → Db} {next : Db → Script Db Unit}
    (hfix : S.Fixed db) (hok : phase.Ok S) (htok : phase.token.Ok S.limits (S.pools db))
    (hnonneg : 0 ≤ db.allowanceSpent S.accountId S.periodKey)
    (h : phase.script S = .stmt effect next) :
    ∃ phase', phase'.script S = next db ∧ S.Advances db (effect db) phase phase' := by
  cases phase with
  | gate req opened =>
    cases h
    exact S.advance_gate hfix hok htok
  -- the gate has found the account, which is not suspended
  | atAccount req row opened =>
    have hs : row.suspendedAt.isSome = false := by rw [hok.2.1]; rfl
    simp only [DoorPhase.script, DoorRequest.gateAccount, hs, Bool.false_eq_true, if_false] at h
    cases h
    exact S.advance_atAccount hfix hok
  | atPeriod req row plan opened =>
    cases h
    exact S.advance_atPeriod hfix hok htok
  -- the workflow and the session read the account and the plan again
  | atWorkflow req plan =>
    cases h
    obtain ⟨row, hrow, -⟩ := hfix.1
    refine ⟨.splitting req plan, ?_, hfix, hok, .refl⟩
    simp [DoorPhase.script, hok.1.1, hrow]
  | atStt req =>
    cases h
    exact ⟨.atFinalize req (db.accounts req.event.accountId), rfl, hfix, hok, .refl⟩
  | atFinalize req account =>
    cases h
    cases account with
    | none => exact ⟨.finished, rfl, hfix, trivial, .single (.drop _ _)⟩
    | some row =>
      obtain ⟨phase', hscript, hok', hmoves⟩ := S.finalize_phase hok row (S.pools db)
      rw [← hfix.2] at hscript
      exact ⟨phase', hscript, hfix, hok', hmoves⟩
  | splitting req plan =>
    cases h
    exact S.advance_splitting hfix hok hnonneg
  | recording event createdAt =>
    cases h
    exact S.advance_recording hfix hok
  | counting event =>
    cases h
    exact S.advance_counting hfix hok htok
  | spending event =>
    simp only [DoorPhase.script, advanceSpent, if_pos hok.2] at h
    cases h
    exact ⟨.finished, rfl, S.advance_spending hfix hok⟩
  | finished => cases h

/-! ## Every run -/

/-- The database and the requests, seen as a reachable state of the gate. -/
def Refined (S : Setting) (db : Db) (phases : List DoorPhase) : Prop :=
  S.Fixed db ∧ (∀ phase ∈ phases, phase.Ok S) ∧
    Reach S.limits State.init ⟨S.pools db, phases.map DoorPhase.token⟩

/-- The requests under way are the live tokens. -/
theorem live_eq_inFlight {phases : List DoorPhase} (hok : ∀ phase ∈ phases, phase.Ok S) :
    total Token.live (phases.map DoorPhase.token) =
      (phases.map (DoorPhase.script S)).countP (fun p => !p.isDone) := by
  induction phases with
  | nil => rfl
  | cons phase phases ih =>
    rw [List.map_cons, total_cons, List.map_cons, List.countP_cons,
      ih (fun q hq => hok q (by simp [hq])), DoorPhase.live_token (hok phase (by simp))]
    cases (phase.script S).isDone <;> simp [add_comm]

/-- Starting a request is starting a token, open or closed as the pools are. -/
theorem refined_start {db : Db} {phases : List DoorPhase} {req : DoorRequest}
    (h : S.Refined db phases) (hreq : S.Request req)
    (hlive : total Token.live (phases.map DoorPhase.token) + 1 ≤ S.limits.inFlight) :
    ∃ phase : DoorPhase, phase.script S = req.run ∧ S.Refined db (phases ++ [phase]) := by
  obtain ⟨hfix, hok, hreach⟩ := h
  -- the gate it will pass, read off the pools as they are
  let opened := decide ((S.pools db).allowance < S.limits.included ∨
    (S.pools db).spent < S.limits.credit)
  refine ⟨.gate req opened, rfl, hfix, ?_, ?_⟩
  · intro phase hphase
    rcases List.mem_append.mp hphase with hold | hnew
    · exact hok phase hold
    · obtain rfl := List.mem_singleton.mp hnew
      exact hreq
  · rw [List.map_append]
    exact hreach.tail (.start _ _ _ opened hreq.2.2.1 hreq.2.2.2 (by simp [opened]) hlive)

/-- Every statement of a request is a move of the gate's model. -/
theorem refined_advance {db : Db} {pre post : List DoorPhase} {phase : DoorPhase}
    {effect : Db → Db} {next : Db → Script Db Unit} (hscript : phase.script S = .stmt effect next)
    (h : S.Refined db (pre ++ phase :: post)) :
    ∃ phase', phase'.script S = next db ∧ S.Refined (effect db) (pre ++ phase' :: post) := by
  obtain ⟨hfix, hok, hreach⟩ := h
  have hinv := Inv.reach hreach
  -- the moving request does what the abstract system allows, the others stay
  obtain ⟨phase', hnext, hfix', hok', hmoves⟩ := S.advance hfix (hok phase (by simp))
    (hinv.tokens_ok _ (by simp)) hinv.allowance_nonneg hscript
  refine ⟨phase', hnext, hfix', ?_, ?_⟩
  · intro q hq
    rcases List.mem_append.mp hq with hq | hq
    · exact hok q (by simp [hq])
    · rcases List.mem_cons.mp hq with rfl | hq
      · exact hok'
      · exact hok q (by simp [hq])
  · rw [List.map_append, List.map_cons] at hreach ⊢
    exact hreach.trans (hmoves.reach _ _)

/-- Every run of the doors is a run of the gate. -/
theorem refines {db₀ : Db} (h₀ : S.Start db₀) {k : Nat} (hk : (k : Int) = S.limits.inFlight)
    {c : Pool Db Unit} (h : Pool.ReachWithin S.Call k ⟨db₀, []⟩ c) :
    Pool.Labelled (DoorPhase.script S) S.Refined c := by
  induction h with
  -- at the start nothing has been spent
  | refl =>
    refine ⟨[], rfl, h₀.1, by simp, ?_⟩
    have : S.pools db₀ = ⟨0, 0, 0⟩ := by simp only [pools, h₀.2.1, h₀.2.2.1, h₀.2.2.2]
    exact this ▸ .refl
  | tail _ hstep ih =>
    obtain ⟨hstep, hlive⟩ := hstep
    refine ih.step hstep ?_ (fun db pre phase post effect next => S.refined_advance)
    rintro p phases ⟨req, hreq, rfl⟩ hc' hthreads hrefined
    refine S.refined_start hrefined hreq ?_
    -- the requests in flight of both models are the same
    rw [S.live_eq_inFlight hrefined.2.1, ← hthreads, ← hk]
    simp only [hc', Pool.inFlight, List.countP_append] at hlive
    have hone : List.countP (fun p => !p.isDone) [req.run] = 1 := rfl
    omega

end Setting

/-- With at most `k` requests of an account under way together, its rows stay
    below both pools plus `2 * k - 1` of the largest charge, and its allowance
    counter below the allowance plus `k - 1` of them. -/
theorem overshoot_bounded (S : Setting) {db₀ : Db} (h₀ : S.Start db₀) {k : Nat}
    (hk : (k : Int) = S.limits.inFlight) {c : Pool Db Unit}
    (h : Pool.ReachWithin S.Call k ⟨db₀, []⟩ c) :
    (c.store.recorded S.accountId ≤ S.limits.included + S.limits.credit ∨
      c.store.recorded S.accountId <
        S.limits.included + S.limits.credit + (2 * k - 1) * S.limits.largest) ∧
    c.store.allowanceSpent S.accountId S.periodKey ≤
      S.limits.included + (k - 1) * S.limits.largest := by
  obtain ⟨phases, -, -, -, hreach⟩ := S.refines h₀ hk h
  rw [hk]
  exact ⟨recorded_bound hreach, allowance_bound hreach⟩

/-! ## Two requests at once -/

/-- An allowance of 100, credit of 50, charges of 200, two requests at a time. -/
def raceSetting : Setting where
  accountId := "acct"
  periodKey := "2026-08"
  planId := "free"
  planRow := ⟨"free", "Free", 50, 100, 60, 1000, "[]"⟩
  plan := ⟨"free", "Free", 50, 100, 60, 1000, parseTiers "[]"⟩
  limits := ⟨100, 50, 200, 2, by decide, by decide, by decide, by decide⟩
  plan_ok := rfl
  included_eq := rfl

/-- A chat request whose answer costs 200. -/
def raceRequest (id : String) : DoorRequest where
  door := .chat
  event := ⟨id, id, "acct", "client", "model", "2026-08", none, none, 200, 0, 0, true, .measured,
    none, none, none⟩
  answered := true
  units := 0
  minCharge := 0
  createdAt := 0

/-- An account with little allowance and little credit. -/
def raceStore : Db := .withAccount raceSetting.planRow ⟨"acct", "free", none, none, 50, 0⟩

/-- Both requests pass the gate and read the period before either row is stored. -/
def race : Pool Db Unit :=
  Pool.exec ⟨raceStore, [(raceRequest "a").run, (raceRequest "b").run]⟩
    [0, 0, 0, 1, 1, 1, 0, 1, 0, 0, 0, 1, 1, 1]

/-- A store the setting starts from. -/
theorem raceStore_start : raceSetting.Start raceStore := by
  refine ⟨⟨⟨_, rfl, rfl, rfl⟩, rfl⟩, rfl, rfl, rfl⟩

/-- Both requests are calls of the setting. -/
theorem race_calls :
    ∀ p ∈ [(raceRequest "a").run, (raceRequest "b").run], raceSetting.Call p := by
  simp only [List.mem_cons, List.not_mem_nil, or_false]
  rintro p (rfl | rfl)
  · exact ⟨raceRequest "a", ⟨rfl, rfl, by decide, by decide⟩, rfl⟩
  · exact ⟨raceRequest "b", ⟨rfl, rfl, by decide, by decide⟩, rfl⟩

/-- The bound on the race: 400 of at most 750 in rows, 200 of at most 300 in the
    allowance counter. -/
theorem overshoot_bounded_race :
    (race.store.recorded "acct" ≤ 150 ∨ race.store.recorded "acct" < 150 + (2 * 2 - 1) * 200) ∧
    race.store.allowanceSpent "acct" "2026-08" ≤ 100 + (2 - 1) * 200 :=
  overshoot_bounded raceSetting raceStore_start (show ((2 : Nat) : Int) = 2 from rfl)
    ((Pool.reachWithin_start _ [] _ race_calls (by decide)).trans
      (Pool.reachWithin_exec _ (by decide) _))

/-- Two concurrent requests book a whole charge and more above both pools, and
    double the allowance. -/
theorem overshoot_race :
    Pool.Reach raceSetting.Call ⟨raceStore, []⟩ race ∧ race.AllDone ∧
    raceSetting.limits.included + raceSetting.limits.credit + raceSetting.limits.largest ≤
      race.store.recorded raceSetting.accountId ∧
    raceSetting.limits.included <
      race.store.allowanceSpent raceSetting.accountId raceSetting.periodKey := by
  refine ⟨(Pool.reach_start _ [] _ race_calls).trans (Pool.reach_exec _ _), ?_, by decide,
    by decide⟩
  intro p hp
  have hthreads : race.threads = [.done (), .done ()] := rfl
  simp only [hthreads, List.mem_cons, List.not_mem_nil, or_false, or_self] at hp
  exact ⟨(), hp⟩

end ControlPlane
