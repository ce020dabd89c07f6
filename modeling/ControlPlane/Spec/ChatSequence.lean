import ControlPlane.ForStd.Run
import ControlPlane.ForStd.TwoPools
import ControlPlane.Spec.AllowanceTrueUp
import ControlPlane.Spec.Grants
import ControlPlane.Spec.LedgerConservation

/-!
# One account's chat requests, one after another

A run of one account: top-ups, and chat requests each settled before the next gate,
with top-ups falling between any two statements of a request. The chat door never
reads what a top-up writes once its account row is read, so a request among top-ups
ends as it would alone, with the credit they brought.

Every event of such a run is one step of the abstract two-pool meter.

## Key results

- `gateAccount_blind`: the chat door is blind to top-ups
- `run_chat`: what a chat request alone writes
- `step_purse`: one event is one step of the meter
-/

namespace ControlPlane

open Script TwoPools

/-! ## Top-ups -/

namespace Db

/-- The database after a complete `grantCredit`. -/
def topUp (db : Db) (args : GrantCreditArgs) : Db :=
  ((grantCredit args).run db).2

/-- The database after several of them. -/
def topUps (grants : List GrantCreditArgs) (db : Db) : Db :=
  grants.foldl topUp db

/-- What top-ups may do: store grants, and add to each account what its grants add up to. -/
structure ToppedUp (db db' : Db) : Prop where
  plans : db'.plans = db.plans
  usageEvents : db'.usageEvents = db.usageEvents
  usagePeriods : db'.usagePeriods = db.usagePeriods
  granted_le : ∀ a, db.granted a ≤ db'.granted a
  accounts : ∀ a, db'.accounts a =
    (db.accounts a).map (.addCredit (db'.granted a - db.granted a))

/-- No top-up at all. -/
theorem ToppedUp.refl (db : Db) : db.ToppedUp db where
  plans := rfl
  usageEvents := rfl
  usagePeriods := rfl
  granted_le _ := le_rfl
  accounts a := by cases db.accounts a <;> simp [AccountRow.addCredit]

/-- Top-ups after top-ups. -/
theorem ToppedUp.trans {db db' db'' : Db} (h : db.ToppedUp db') (h' : db'.ToppedUp db'') :
    db.ToppedUp db'' where
  plans := h'.plans.trans h.plans
  usageEvents := h'.usageEvents.trans h.usageEvents
  usagePeriods := h'.usagePeriods.trans h.usagePeriods
  granted_le a := (h.granted_le a).trans (h'.granted_le a)
  accounts a := by
    rw [h'.accounts, h.accounts]
    cases db.accounts a with
    | none => rfl
    | some row =>
      simp only [Option.map_some, AccountRow.addCredit, Option.some.injEq, AccountRow.mk.injEq,
        true_and, and_true]
      omega

/-- A grant lands with its money, or changes nothing. -/
theorem topUp_toppedUp (db : Db) {args : GrantCreditArgs} (h : 0 ≤ args.microUsd) :
    db.ToppedUp (db.topUp args) := by
  unfold topUp
  cases htaken : db.grantTaken args.row with
  -- the grant was there already: nothing changes
  | true =>
    rw [run_grantCredit_ignored htaken]
    exact .refl db
  -- the grant lands, on one account
  | false =>
    rw [(run_grantCredit_landed htaken).2]
    have hgranted : ∀ a, ((db.addGrant args.row).updateAccount args.accountId
        (.addCredit args.microUsd)).granted a =
        db.granted a + (if args.accountId = a then args.microUsd else 0) := by
      intro a
      rw [granted_updateAccount, granted_addGrant]
      rfl
    refine ⟨rfl, rfl, rfl, fun a => ?_, fun a => ?_⟩
    · rw [hgranted]
      split <;> omega
    · rw [hgranted]
      simp only [updateAccount, addGrant_accounts]
      by_cases ha : a = args.accountId
      · subst ha
        simp
      · rw [if_neg ha, if_neg (Ne.symm ha)]
        cases db.accounts a <;> simp [AccountRow.addCredit]

/-- Grants that are not negative are top-ups. -/
theorem topUps_toppedUp (db : Db) {grants : List GrantCreditArgs}
    (h : ∀ args ∈ grants, 0 ≤ args.microUsd) : db.ToppedUp (db.topUps grants) := by
  induction grants generalizing db with
  | nil => exact .refl db
  | cons args grants ih =>
    exact (db.topUp_toppedUp (h args (by simp))).trans
      (ih (db.topUp args) (fun args' hargs => h args' (by simp [hargs])))

/-- The grants a top-up leaves depend on the grants it found alone. -/
theorem creditGrants_topUp (db : Db) (args : GrantCreditArgs) :
    (db.topUp args).creditGrants =
      (Table.insertOrIgnore grantConflict args.row db.creditGrants).1 := by
  unfold topUp
  cases htaken : db.grantTaken args.row with
  | true => rw [run_grantCredit_ignored htaken, Table.insertOrIgnore_of_any htaken]
  | false =>
    rw [(run_grantCredit_landed htaken).2, Table.insertOrIgnore_of_not_any htaken]
    rfl

/-- The grants after several top-ups. -/
def storeGrants (grants : List GrantCreditArgs) (stored : List CreditGrantRow) :
    List CreditGrantRow :=
  grants.foldl (fun stored args => (Table.insertOrIgnore grantConflict args.row stored).1) stored

/-- The grants stored are those applied. -/
theorem creditGrants_topUps (db : Db) (grants : List GrantCreditArgs) :
    (db.topUps grants).creditGrants = storeGrants grants db.creditGrants := by
  induction grants generalizing db with
  | nil => rfl
  | cons args grants ih =>
    show ((db.topUp args).topUps grants).creditGrants = _
    rw [ih, creditGrants_topUp]
    rfl

/-- What an account was granted is read off the stored grants. -/
theorem granted_congr {db db' : Db} (h : db'.creditGrants = db.creditGrants) (a : String) :
    db'.granted a = db.granted a := by
  unfold granted
  rw [h]

end Db

/-! ## The events of a run -/

/-- One event of an account: a top-up, or a chat request with the top-ups that fall
    before its second and later statements, and after the last. -/
inductive AccountEvent where
  | topUp (args : GrantCreditArgs)
  | chat (req : DoorRequest) (during : List (List GrantCreditArgs))

namespace AccountEvent

/-- The database after an event. -/
def apply (db : Db) : AccountEvent → Db
  | .topUp args => db.topUp args
  | .chat req during => (req.run.runWith (id :: during.map Db.topUps) db).2

/-- Requests of the account at the chat door with charges that are not negative,
    and top-ups of any account that are not negative. -/
def Ok (accountId : String) : AccountEvent → Prop
  | .topUp args => 0 ≤ args.microUsd
  | .chat req during => req.door = .chat ∧ req.event.accountId = accountId ∧
      0 ≤ req.event.microUsd ∧ ∀ grants ∈ during, ∀ args ∈ grants, 0 ≤ args.microUsd

/-- The top-ups of an event. -/
def grants : AccountEvent → List GrantCreditArgs
  | .topUp args => [args]
  | .chat _ during => during.flatten

/-- The request of an event, with its period. -/
def inPeriod (periodKey : String) : AccountEvent → Bool
  | .topUp _ => false
  | .chat req _ => req.event.periodKey == periodKey

end AccountEvent

/-! ## The chat door is blind to top-ups -/

/-- Recording a call does not see top-ups. -/
theorem recordUsage_blind (event : UsageEvent) (createdAt : Int) :
    Blind Db.ToppedUp (recordUsage event createdAt) := by
  refine Blind.bind (Blind.exec (fun db db' h => ?_)) (fun insert => ?_)
  · simp only [Db.insertEvent, h.usageEvents, and_true]
    exact ⟨h.plans, rfl, h.usagePeriods, h.granted_le, h.accounts⟩
  cases insert with
  | false => exact .done ()
  | true =>
    refine Blind.bind (Blind.exec (fun db db' h => ⟨?_, rfl⟩)) (fun _ => ?_)
    · exact ⟨h.plans, h.usageEvents, by simp only [Db.upsertPeriod, h.usagePeriods],
        h.granted_le, h.accounts⟩
    unfold advanceSpent
    split
    · refine Blind.exec (fun db db' h => ⟨⟨h.plans, h.usageEvents, h.usagePeriods, h.granted_le,
        fun a => ?_⟩, rfl⟩)
      simp only [Db.granted_updateAccount]
      simp only [Db.updateAccount, h.accounts]
      -- spend and credit are different columns of the row
      split
      · cases db.accounts a <;> rfl
      · rfl
    · exact .done ()

/-- Nor does reading a period. -/
theorem getPeriod_blind (a k : String) : Blind Db.ToppedUp (getPeriod a k) :=
  Blind.read (fun db db' h => by rw [h.usagePeriods])

namespace DoorRequest

variable {req : DoorRequest}

/-- Nor does settling a chat request. -/
theorem settleChat_blind (plan : Plan) : Blind Db.ToppedUp (req.settleChat plan) := by
  unfold settleChat
  split
  · exact Blind.bind (getPeriod_blind _ _) (fun period => recordUsage_blind _ _)
  · exact recordUsage_blind _ _

/-- Once its account row is read, a chat request reads nothing a top-up writes. -/
theorem gateAccount_blind (hdoor : req.door = .chat) (account : Option AccountRow) :
    Blind Db.ToppedUp (req.gateAccount account) := by
  unfold gateAccount
  split
  · exact .done ()
  split
  · exact .done ()
  -- the plan and the period are not touched by a top-up
  refine Blind.bind (Blind.read (fun db db' h => by rw [h.plans])) (fun planRow => ?_)
  unfold gatePlan
  split
  · exact .done ()
  split
  · exact .done ()
  refine Blind.bind (getPeriod_blind _ _) (fun period => ?_)
  split
  · unfold settle
    split
    · exact .done ()
    · simp only [hdoor]
      exact settleChat_blind _
  · exact .done ()

end DoorRequest

/-! ## A chat request alone -/

/-- Whether the gate lets the request through. -/
def DoorRequest.admitted (req : DoorRequest) (plan : Plan) (db : Db) : Bool :=
  match db.accounts req.event.accountId with
  | none => false
  | some account => account.suspendedAt.isNone &&
      req.admits account plan (db.usagePeriods req.event.accountId req.event.periodKey)

/-- Whether the request is charged: it is admitted, its answer is priced, and the
    ledger holds no row with its id or its request id yet. -/
def DoorRequest.lands (req : DoorRequest) (plan : Plan) (db : Db) : Bool :=
  req.admitted plan db && req.answered && req.event.metered &&
    !db.usageEvents.any (Db.eventConflict (req.event.row req.createdAt))

/-- The row of `plans` an account is on. -/
def Db.planOf (db : Db) (a : String) : Option PlanRow :=
  (db.accounts a).bind (fun account => db.plans account.planId)

/-- The account is on a valid plan. -/
def Db.OnPlan (db : Db) (a : String) (plan : Plan) : Prop :=
  ∃ row, db.planOf a = some row ∧ planFromRow row = .ok plan

/-- Spending leaves an account's plan alone. -/
theorem Db.planOf_addSpent (db : Db) (a b : String) (n : Int) :
    (db.updateAccount a (.addSpent n)).planOf b = db.planOf b := by
  simp only [planOf, updateAccount]
  split
  · cases db.accounts b <;> rfl
  · rfl

/-- So does a top-up. -/
theorem Db.ToppedUp.planOf {db db' : Db} (h : db.ToppedUp db') (a : String) :
    db'.planOf a = db.planOf a := by
  simp only [Db.planOf, h.accounts, h.plans]
  cases db.accounts a <;> rfl

/-- An account on a plan exists. -/
theorem Db.OnPlan.isSome {db : Db} {a : String} {plan : Plan} (h : db.OnPlan a plan) :
    (db.accounts a).isSome := by
  obtain ⟨row, hrow, -⟩ := h
  obtain ⟨account, haccount, -⟩ := Option.bind_eq_some_iff.mp hrow
  exact Option.isSome_iff_exists.mpr ⟨account, haccount⟩

section

variable {req : DoorRequest} {plan : Plan} {db : Db}

/-- The event the chat door records. -/
def DoorRequest.chatEvent (req : DoorRequest) (plan : Plan) (db : Db) : UsageEvent :=
  if req.event.metered ∧ 0 < req.event.microUsd then req.settled plan db
  else req.event.withoutSplit

/-- Settling alone is recording the request's event. -/
theorem run_settleChat (req : DoorRequest) (plan : Plan) (db : Db) :
    (req.settleChat plan).run db = (recordUsage (req.chatEvent plan db) req.createdAt).run db := by
  unfold DoorRequest.settleChat DoorRequest.chatEvent
  split
  · simp only [DoorRequest.splitAndRecord, getPeriod, bind_eq_bind, run_bind, run_read]
    rfl
  · rfl

/-- The gate settles a request it admits, and nothing else. -/
theorem run_gatePeriod (req : DoorRequest) (account : AccountRow) (plan : Plan) (db : Db) :
    (req.gatePeriod account plan).run db =
      (if req.admits account plan (db.usagePeriods req.event.accountId req.event.periodKey) then
        req.settle plan account.planId else pure ()).run db := rfl

/-- A chat request records its row when it is admitted and answered, and does
    nothing else. -/
theorem run_chat (hdoor : req.door = .chat) (hplan : db.OnPlan req.event.accountId plan) :
    (req.run.run db).2 =
      if req.admitted plan db ∧ req.answered then
        ((recordUsage (req.chatEvent plan db) req.createdAt).run db).2
      else db := by
  obtain ⟨row, hrow, hok⟩ := hplan
  -- the account and its plan are found, so only the gate decides
  obtain ⟨account, haccount, hplanRow⟩ := Option.bind_eq_some_iff.mp hrow
  simp only [DoorRequest.run, getAccount, bind_eq_bind, run_bind, run_read, haccount,
    DoorRequest.gateAccount, DoorRequest.admitted]
  cases hs : account.suspendedAt with
  | some t => simp
  | none =>
    simp only [Option.isSome_none, Bool.false_eq_true, if_false, Option.isNone_none, Bool.true_and,
      getPlan, run_bind, run_read, hplanRow, DoorRequest.gatePlan, hok]
    rw [run_gatePeriod]
    by_cases hadmits : req.admits account plan
        (db.usagePeriods req.event.accountId req.event.periodKey) = true
    · rw [if_pos hadmits]
      simp only [hadmits, true_and, DoorRequest.settle, hdoor]
      cases hanswered : req.answered with
      | false => simp
      | true => simp [run_settleChat]
    · simp [hadmits]

/-- A row that lands advances the counters by its shares, and touches nothing else. -/
theorem run_recordUsage_landed {event : UsageEvent} {createdAt : Int}
    (haccount : (db.accounts event.accountId).isSome) (hcredit : 0 ≤ event.fromCreditMicroUsd)
    (hfree : db.usageEvents.any (Db.eventConflict (event.row createdAt)) = false) :
    let db' := ((recordUsage event createdAt).run db).2
    db'.usageEvents = db.usageEvents ++ [event.row createdAt] ∧
    db'.counter = db.counter + event.periodShare + event.spentShare ∧
    (∀ a, db'.credit a = db.credit a) ∧ (∀ a, db'.planOf a = db.planOf a) := by
  simp only [run_recordUsage_free hfree, advanceCounters, advanceSpent, exec, bind_eq_bind,
    stmt_bind, done_bind, run_stmt]
  -- the period upsert comes first, whatever the row took from credit
  have hperiod := Db.counter_upsertPeriod_event
    { db with usageEvents := db.usageEvents ++ [event.row createdAt] } event
  have hsame : ({ db with usageEvents := db.usageEvents ++ [event.row createdAt] } : Db).counter =
      db.counter := by
    funext counter
    cases counter <;> rfl
  rw [hsame] at hperiod
  by_cases hspend : event.metered ∧ 0 < event.fromCredit
  · simp only [hspend, and_self, if_true, run_stmt, run_done]
    refine ⟨rfl, ?_, fun a => by simp; rfl, fun a => ?_⟩
    · rw [Db.counter_updateAccount_spent _ _ (by simpa using haccount), hperiod]
    · rw [Db.planOf_addSpent]
      rfl
  · simp only [hspend, if_false, pure_eq_done, run_done]
    refine ⟨rfl, ?_, fun a => rfl, fun a => rfl⟩
    rw [hperiod, event.spentShare_eq_zero hcredit hspend, add_zero]

end

/-! ## The meter of an account -/

/-- The two pools of an account, and its charges: the metered ledger rows. -/
def Db.purse (db : Db) (a : String) : Purse String where
  credit := db.credit a
  spent := db.spent a
  used k := db.allowanceSpent a k
  overflow k := Table.sumWhere (fun row => row.inPeriod a k && row.metered)
    (·.fromCreditMicroUsd) db.usageEvents
  charges := (db.usageEvents.filter (fun row => row.accountId == a && row.metered)).map
    (fun row => (row.periodKey, row.microUsd))

/-- The charges of a period are the prices of its metered rows. -/
theorem Db.charges_purse (db : Db) (a k : String) :
    ((db.purse a).charges.filter (fun c => c.1 = k)).map (·.2) =
      (db.usageEvents.filter (fun row => row.inPeriod a k && row.metered)).map (·.microUsd) := by
  simp only [purse, List.filter_map, List.map_map, List.filter_filter]
  congr 1
  refine List.filter_congr (fun row _ => ?_)
  simp only [Function.comp_apply, UsageEventRow.inPeriod]
  cases row.accountId == a <;> cases row.metered <;> simp [beq_eq_decide]

/-- What the purse was charged in a period is the sum of its rows. -/
theorem Db.chargedIn_purse (db : Db) (a k : String) :
    chargedIn k (db.purse a).charges = db.rowSum (.microUsd a k) :=
  congrArg List.sum (db.charges_purse a k)

/-- Top-ups are grants of the meter. -/
theorem Db.ToppedUp.purse {db db' : Db} (h : db.ToppedUp db') {a : String}
    (ha : (db.accounts a).isSome) :
    db'.purse a = (db.purse a).grant (db'.granted a - db.granted a) := by
  obtain ⟨account, haccount⟩ := Option.isSome_iff_exists.mp ha
  ext k
  · simp [Db.purse, Purse.grant, Db.credit, h.accounts, haccount, AccountRow.addCredit]
  · simp [Db.purse, Purse.grant, Db.spent, h.accounts, haccount, AccountRow.addCredit]
  · simp [Db.purse, Purse.grant, Db.allowanceSpent, Db.periodColumn, h.usagePeriods]
  · simp [Db.purse, Purse.grant, h.usageEvents]
  · simp [Db.purse, Purse.grant, h.usageEvents]

section

variable {req : DoorRequest} {plan : Plan} {db : Db}

/-- The split touches nothing but the two parts. -/
theorem chatEvent_same (req : DoorRequest) (plan : Plan) (db : Db) :
    (req.chatEvent plan db).accountId = req.event.accountId ∧
    (req.chatEvent plan db).periodKey = req.event.periodKey ∧
    (req.chatEvent plan db).microUsd = req.event.microUsd ∧
    (req.chatEvent plan db).metered = req.event.metered ∧
    Db.eventConflict ((req.chatEvent plan db).row req.createdAt) =
      Db.eventConflict (req.event.row req.createdAt) := by
  unfold DoorRequest.chatEvent DoorRequest.settled
  split
  · split <;> exact ⟨rfl, rfl, rfl, rfl, rfl⟩
  · exact ⟨rfl, rfl, rfl, rfl, rfl⟩

/-- A priced event carries the meter's split. -/
theorem chatEvent_split (hmetered : req.event.metered = true)
    (hcharge : 0 ≤ req.event.microUsd) (hplan : 0 ≤ plan.monthlyIncludedMicroUsd)
    (hused : 0 ≤ db.allowanceSpent req.event.accountId req.event.periodKey) :
    let part := (db.purse req.event.accountId).fromAllowance plan.monthlyIncludedMicroUsd
      req.event.periodKey req.event.microUsd
    (req.chatEvent plan db).fromAllowance = part ∧
      (req.chatEvent plan db).fromCredit = req.event.microUsd - part := by
  have hpart : (db.purse req.event.accountId).fromAllowance plan.monthlyIncludedMicroUsd
      req.event.periodKey req.event.microUsd = min req.event.microUsd
        (max 0 (plan.monthlyIncludedMicroUsd -
          db.allowanceSpent req.event.accountId req.event.periodKey)) := rfl
  have hmetered' := (chatEvent_same req plan db).2.2.2.1.trans hmetered
  simp only [UsageEvent.fromAllowance, UsageEvent.fromCredit, hmetered', if_true, hpart]
  simp only [DoorRequest.chatEvent, hmetered, true_and, DoorRequest.settled]
  by_cases hpos : 0 < req.event.microUsd
  · rw [if_pos hpos, if_pos hpos]
    -- what the door has left is `included - used`, no less than zero
    have hroom : remainingAllowanceMicroUsd plan.monthlyIncludedMicroUsd
        (db.allowanceSpent req.event.accountId req.event.periodKey) =
        max 0 (plan.monthlyIncludedMicroUsd -
          db.allowanceSpent req.event.accountId req.event.periodKey) := by
      simp only [remainingAllowanceMicroUsd]
      rw [if_neg (by omega), if_neg (by omega)]
    obtain ⟨-, -, hsum, hallowance⟩ := allocateCharge_spec req.event.microUsd
      plan.monthlyIncludedMicroUsd (db.allowanceSpent req.event.accountId req.event.periodKey)
      hcharge
    rw [hroom] at hallowance
    refine ⟨hallowance, ?_⟩
    show (allocateCharge req.event.microUsd plan.monthlyIncludedMicroUsd
      (db.allowanceSpent req.event.accountId req.event.periodKey)).fromCreditMicroUsd = _
    omega
  · -- a charge of zero is a split of nothing
    rw [if_neg hpos]
    simp only [UsageEvent.withoutSplit]
    omega

/-- What a row that lands does to the meter of its account. -/
theorem purse_recordUsage {event : UsageEvent} {createdAt : Int}
    (haccount : (db.accounts event.accountId).isSome) (hcredit : 0 ≤ event.fromCreditMicroUsd)
    (hfree : db.usageEvents.any (Db.eventConflict (event.row createdAt)) = false) :
    ((recordUsage event createdAt).run db).2.purse event.accountId =
      { credit := db.credit event.accountId
        spent := db.spent event.accountId + event.fromCredit
        used := fun k => db.allowanceSpent event.accountId k +
          if event.periodKey = k then event.fromAllowance else 0
        overflow := fun k => (db.purse event.accountId).overflow k +
          if event.periodKey = k then event.fromCredit else 0
        charges := (db.purse event.accountId).charges ++
          if event.metered then [(event.periodKey, event.microUsd)] else [] } := by
  obtain ⟨hevents, hcounter, hcredits, -⟩ := run_recordUsage_landed haccount hcredit hfree
  ext k
  · exact hcredits event.accountId
  -- the counters move by the event's shares
  · show Db.spent _ _ = _
    have := congrFun hcounter (.spent event.accountId)
    simpa [Db.counter, UsageEvent.periodShare, UsageEvent.spentShare] using this
  · show Db.allowanceSpent _ _ _ = _
    have := congrFun hcounter (.allowanceSpent event.accountId k)
    simpa [Db.counter, UsageEvent.periodShare, UsageEvent.spentShare] using this
  · simp only [Db.purse, hevents, Table.sumWhere_append, Table.sumWhere_cons, Table.sumWhere_nil]
    cases hm : event.metered <;>
      simp [UsageEvent.row, UsageEventRow.inPeriod, UsageEvent.fromCredit, hm]
  -- and a metered event is one charge more
  · simp only [Db.purse, hevents, List.filter_append, List.map_append]
    cases hm : event.metered <;> simp [UsageEvent.row, hm]

/-- What the chat door records takes nothing negative from credit. -/
theorem chatEvent_fromCredit_nonneg (req : DoorRequest) (plan : Plan) (db : Db)
    (hcharge : 0 ≤ req.event.microUsd) : 0 ≤ (req.chatEvent plan db).fromCreditMicroUsd := by
  unfold DoorRequest.chatEvent DoorRequest.settled
  split
  · split
    · exact (allocateCharge_spec _ _ _ hcharge).2.1
    · exact le_rfl
  · exact le_rfl

/-- A request that is charged is one charge of the meter, any other leaves it alone. -/
theorem purse_run_chat (hdoor : req.door = .chat) (hplan : db.OnPlan req.event.accountId plan)
    (hcharge : 0 ≤ req.event.microUsd)
    (hused : 0 ≤ db.allowanceSpent req.event.accountId req.event.periodKey) :
    (req.run.run db).2.OnPlan req.event.accountId plan ∧
    (req.run.run db).2.purse req.event.accountId =
      if req.lands plan db then (db.purse req.event.accountId).take plan.monthlyIncludedMicroUsd
        req.event.periodKey req.event.microUsd
      else db.purse req.event.accountId := by
  obtain ⟨planRow, hplanRow, hok⟩ := id hplan
  obtain ⟨haccountId, hperiodKey, hmicro, hmetered, hconflict⟩ := chatEvent_same req plan db
  rw [run_chat hdoor hplan]
  by_cases hrun : req.admitted plan db = true ∧ req.answered = true
  swap
  · -- refused, or not answered: nothing was written
    rw [if_neg hrun, if_neg]
    · exact ⟨hplan, rfl⟩
    · simp only [DoorRequest.lands, Bool.and_eq_true]
      exact fun h => hrun h.1.1
  rw [if_pos hrun]
  cases hfree : db.usageEvents.any (Db.eventConflict (req.event.row req.createdAt)) with
  -- the row was there already
  | true =>
    rw [run_recordUsage_ignored (by rw [hconflict, hfree])]
    exact ⟨hplan, by simp [DoorRequest.lands, hfree]⟩
  | false =>
    have haccount : (db.accounts (req.chatEvent plan db).accountId).isSome :=
      haccountId ▸ hplan.isSome
    have hcredit := chatEvent_fromCredit_nonneg req plan db hcharge
    have hfree' := hconflict ▸ hfree
    have hland := run_recordUsage_landed haccount hcredit hfree'
    have hpurse := purse_recordUsage haccount hcredit hfree'
    rw [haccountId, hperiodKey, hmicro, hmetered] at hpurse
    refine ⟨⟨planRow, (hland.2.2.2 _).trans hplanRow, hok⟩, hpurse.trans ?_⟩
    cases hm : req.event.metered with
    | false =>
      -- an unmetered row is stored, and moves no money
      have hunmetered := hmetered.trans hm
      simp [DoorRequest.lands, hm, UsageEvent.fromAllowance, UsageEvent.fromCredit, hunmetered]
      rfl
    | true =>
      obtain ⟨hallowance, hrest⟩ := chatEvent_split hm hcharge (planFromRow_ok hok).2.2.2.1 hused
      have hlands : req.lands plan db = true := by simp [DoorRequest.lands, hrun, hm, hfree]
      rw [if_pos hlands, hallowance, hrest, if_pos rfl]
      -- field by field; the counters of another period are as they were
      ext k
      · rfl
      · rfl
      · simp only [Purse.take, Function.update_apply]
        by_cases hk : req.event.periodKey = k
        · subst hk
          simp [Db.purse]
        · simp [Db.purse, hk, Ne.symm hk]
      · simp only [Purse.take, Function.update_apply]
        by_cases hk : req.event.periodKey = k
        · subst hk
          simp
        · simp [hk, Ne.symm hk]
      · simp [Purse.take]

/-- The gate lets a charge through only while a pool has room. -/
theorem open_of_lands (h : req.lands plan db = true) :
    (db.purse req.event.accountId).Open plan.monthlyIncludedMicroUsd req.event.periodKey := by
  simp only [DoorRequest.lands, DoorRequest.admitted, Bool.and_eq_true] at h
  obtain ⟨⟨⟨hadmitted, -⟩, -⟩, -⟩ := h
  split at hadmitted
  · cases hadmitted
  next account haccount =>
    have hadmits := (Bool.and_eq_true_iff.mp hadmitted).2
    unfold DoorRequest.admits at hadmits
    dsimp only at hadmits
    split at hadmits
    next total allowance credit hdecide =>
      -- the gate let the request in, so one of the pools had room
      have hroom := ((decideBalance_allow_iff _).mp ⟨total, allowance, credit, hdecide⟩).2.2.2.2
      simpa [Purse.Open, Db.purse, Db.allowanceSpent, Db.periodColumn, Db.credit, Db.spent,
        haccount] using hroom
    next => cases hadmits

end

/-! ## One event -/

/-- The chat door leaves the grants alone. -/
theorem DoorRequest.gateAccount_creditGrants {req : DoorRequest} (hdoor : req.door = .chat)
    (account : Option AccountRow) :
    Steps (fun db db' : Db => db'.creditGrants = db.creditGrants) (req.gateAccount account) := by
  have hrecord : ∀ event createdAt, Steps (fun db db' : Db => db'.creditGrants = db.creditGrants)
      (recordUsage event createdAt) := by
    intro event createdAt
    refine Steps.bind (Steps.exec (fun db => rfl)) (fun insert => ?_)
    cases insert with
    | false => exact .done ()
    | true =>
      refine Steps.bind (Steps.exec (fun db => rfl)) (fun _ => ?_)
      unfold advanceSpent
      split
      · exact Steps.exec (fun db => rfl)
      · exact .done ()
  -- every way through the gate ends, reads on, or records
  unfold gateAccount
  split
  · exact .done ()
  split
  · exact .done ()
  refine Steps.bind (Steps.read (fun db => rfl)) (fun planRow => ?_)
  unfold gatePlan
  split
  · exact .done ()
  split
  · exact .done ()
  refine Steps.bind (Steps.read (fun db => rfl)) (fun period => ?_)
  split
  · unfold settle
    split
    · exact .done ()
    simp only [hdoor]
    unfold settleChat
    split
    · exact Steps.bind (Steps.read (fun db => rfl)) (fun period => hrecord _ _)
    · exact hrecord _ _
  · exact .done ()

namespace AccountEvent

variable {a : String} {plan : Plan} {db : Db}

/-- What holds of the database between two events. -/
structure Ready (a : String) (plan : Plan) (db : Db) : Prop where
  onPlan : db.OnPlan a plan
  allowanceSpent_nonneg : ∀ k, 0 ≤ db.allowanceSpent a k

/-- The credit an event brings the account. -/
def brings (a : String) (db : Db) (event : AccountEvent) : Int :=
  (db.topUps event.grants).granted a - db.granted a

/-- What an event does to the meter of the account, its top-ups apart: the charge of
    its request, if it is charged. -/
def taken (a : String) (plan : Plan) (db : Db) : AccountEvent → Purse String
  | .topUp _ => db.purse a
  | .chat req _ =>
    if req.lands plan db then
      (db.purse a).take plan.monthlyIncludedMicroUsd req.event.periodKey req.event.microUsd
    else db.purse a

/-- A chat request among top-ups ends as it would alone, with the credit they brought. -/
theorem apply_chat {req : DoorRequest} {during : List (List GrantCreditArgs)}
    (hok : (AccountEvent.chat req during).Ok a) (db : Db) :
    (req.run.run db).2.ToppedUp (apply db (.chat req during)) ∧
    (req.run.run db).2.creditGrants = db.creditGrants ∧
    (apply db (.chat req during)).creditGrants = (db.topUps during.flatten).creditGrants := by
  obtain ⟨hdoor, -, -, hgrants⟩ := hok
  have hothers : ∀ g ∈ during.map Db.topUps, ∀ s, Db.ToppedUp s (g s) := by
    intro g hg s
    obtain ⟨grants, hmem, rfl⟩ := List.mem_map.mp hg
    exact s.topUps_toppedUp (hgrants grants hmem)
  have hblind := DoorRequest.gateAccount_blind hdoor (db.accounts req.event.accountId)
  have hsteps := DoorRequest.gateAccount_creditGrants hdoor (db.accounts req.event.accountId)
  refine ⟨(hblind.runWith (fun _ _ _ => Db.ToppedUp.trans) hothers (.refl db)).2,
    hsteps.run (fun _ => rfl) (fun _ _ _ h h' => h'.trans h) db, ?_⟩
  have hfold := hsteps.runWith_proj (fun grants s => s.creditGrants_topUps grants) during db
  refine hfold.trans ?_
  rw [Db.creditGrants_topUps, Db.storeGrants, List.foldl_flatten]
  rfl

/-- A charge leaves no allowance counter negative. -/
theorem taken_used_nonneg (hready : Ready a plan db) {event : AccountEvent} (hok : event.Ok a)
    (k : String) : 0 ≤ (event.taken a plan db).used k := by
  have hused := hready.allowanceSpent_nonneg
  cases event with
  | topUp args => exact hused k
  | chat req during =>
    simp only [taken]
    split
    · simp only [Purse.take, Function.update_apply, Purse.fromAllowance, Db.purse]
      have hcharge := hok.2.2.1
      have := hused req.event.periodKey
      split
      · omega
      · exact hused k
    · exact hused k

/-- One event: the charge of its request, and the credit it brings. -/
theorem apply_purse (hready : Ready a plan db) {event : AccountEvent} (hok : event.Ok a) :
    Ready a plan (apply db event) ∧ 0 ≤ event.brings a db ∧
    (apply db event).purse a = (event.taken a plan db).grant (event.brings a db) ∧
    (apply db event).granted a = db.granted a + event.brings a db := by
  cases event with
  -- the credit a top-up brings is what its grants hold more than before
  | topUp args =>
    have htop := db.topUp_toppedUp hok
    have hbrings : (AccountEvent.topUp args).brings a db =
        (db.topUp args).granted a - db.granted a := rfl
    have hle := htop.granted_le a
    have hplan : (db.topUp args).OnPlan a plan := by
      obtain ⟨row, hrow, hvalid⟩ := hready.onPlan
      exact ⟨row, (htop.planOf a).trans hrow, hvalid⟩
    refine ⟨⟨hplan, fun k => ?_⟩, by omega, htop.purse hready.onPlan.isSome, ?_⟩
    · show 0 ≤ (db.topUp args).allowanceSpent a k
      simpa only [Db.allowanceSpent, Db.periodColumn, htop.usagePeriods] using
        hready.allowanceSpent_nonneg k
    · show (db.topUp args).granted a = _
      omega
  | chat req during =>
    have hok' := hok
    obtain ⟨htop, hkeep, hgrants⟩ := apply_chat hok db
    obtain ⟨hdoor, rfl, hcharge, -⟩ := hok
    have hnonneg := hready.allowanceSpent_nonneg req.event.periodKey
    obtain ⟨halone, hpurse⟩ := purse_run_chat hdoor hready.onPlan hcharge hnonneg
    -- top-ups may land while the request is served; they come after its charge here
    have hbrings : (AccountEvent.chat req during).brings req.event.accountId db =
        (apply db (.chat req during)).granted req.event.accountId -
          (req.run.run db).2.granted req.event.accountId := by
      rw [Db.granted_congr hkeep, Db.granted_congr hgrants]
      rfl
    have hle := htop.granted_le req.event.accountId
    have hplan : (apply db (.chat req during)).OnPlan req.event.accountId plan := by
      obtain ⟨row, hrow, hvalid⟩ := halone
      exact ⟨row, (htop.planOf _).trans hrow, hvalid⟩
    have hfinal : (apply db (.chat req during)).purse req.event.accountId =
        ((AccountEvent.chat req during).taken req.event.accountId plan db).grant
          ((AccountEvent.chat req during).brings req.event.accountId db) := by
      rw [htop.purse halone.isSome, hpurse, hbrings]
      rfl
    refine ⟨⟨hplan, fun k => ?_⟩, by omega, hfinal, ?_⟩
    · show 0 ≤ ((apply db (.chat req during)).purse req.event.accountId).used k
      rw [hfinal]
      exact taken_used_nonneg hready hok' k
    · rw [hbrings, Db.granted_congr hkeep]
      omega

/-- One event is a step of the meter. -/
theorem step_purse (hready : Ready a plan db) {event : AccountEvent} (hok : event.Ok a) :
    Step plan.monthlyIncludedMicroUsd (db.purse a) ((apply db event).purse a) := by
  obtain ⟨-, hbrings, hpurse, -⟩ := apply_purse hready hok
  rw [hpurse]
  cases event with
  | topUp args => exact .grant _ _ hbrings
  | chat req during =>
    obtain ⟨-, rfl, hcharge, -⟩ := hok
    simp only [taken]
    split
    next hlands => exact .take _ _ _ _ (open_of_lands hlands) hcharge hbrings
    next => exact .grant _ _ hbrings

/-- Every event of a run keeps the account ready for the next. -/
theorem ready_apply (hready : Ready a plan db) {event : AccountEvent} (hok : event.Ok a) :
    Ready a plan (apply db event) :=
  (apply_purse hready hok).1

end AccountEvent

end ControlPlane
