import ControlPlane.Spec.ChatSequence

/-!
# What the chat requests of one account come to in a period

The chat requests of one account, one after another, with top-ups at any point and
in any order of periods. The gate lets a request through while either pool has
room, so a period's charges can pass both pools, but only by its last charge.

## Key results

- `since_run`: a run of events is a run of the two-pool meter
- `rowSum_run`: the charges of a period are its allowance and its share of spend
- `rowSum_lt`: how far the charges of a period can go
- `period_charges`: the whole of it, over every run
-/

namespace ControlPlane

open Run TwoPools AccountEvent

variable {a : String} {plan : Plan} {db₀ : Db} {es : List AccountEvent}

/-- What the requests of a period added to `accounts.spent_micro_usd`. -/
def Db.spentIn (a k : String) (db : Db) (es : List AccountEvent) : Int :=
  total apply (fun db event => if event.inPeriod k then (apply db event).spent a - db.spent a
    else 0) db es

/-- The last metered ledger row of a period. -/
def Db.lastCharge (db : Db) (a k : String) : Option UsageEventRow :=
  (db.usageEvents.filter (fun row => row.inPeriod a k && row.metered)).getLast?

theorem Db.lastIn_purse (db : Db) (a k : String) :
    lastIn k (db.purse a).charges = (db.lastCharge a k).map (·.microUsd) := by
  rw [lastIn, db.charges_purse, List.getLast?_map]
  rfl

/-! ## Runs -/

/-- Between any two events the account is ready for the next. -/
theorem ready_run (hready : Ready a plan db₀) (hok : ∀ e ∈ es, e.Ok a) :
    Ready a plan (runAll apply db₀ es) :=
  invariant_runAll hready (everyStep_of_mem hok db₀) (fun _ _ h he => ready_apply h he)

/-- A run of events is a run of the meter. -/
theorem since_run (hready : Ready a plan db₀) (hok : ∀ e ∈ es, e.Ok a)
    (hstart : ∀ k, db₀.allowanceSpent a k ≤ plan.monthlyIncludedMicroUsd) :
    Since plan.monthlyIncludedMicroUsd (db₀.purse a) ((runAll apply db₀ es).purse a) := by
  apply since_of_reach hstart
  exact reach_of_everyStep (fun db => db.purse a) hready (everyStep_of_mem hok db₀)
    (fun _ _ h he => ready_apply h he) (fun _ _ h he => step_purse h he)

/-- Credit moves with the grants, and with nothing else. -/
theorem credit_run (hready : Ready a plan db₀) (hok : ∀ e ∈ es, e.Ok a) :
    (runAll apply db₀ es).credit a - db₀.credit a =
      (runAll apply db₀ es).granted a - db₀.granted a := by
  -- every event grants what it brings, and nothing else adds credit
  have hstep : ∀ db e, (Ready a plan db ∧ db.credit a - db₀.credit a =
      db.granted a - db₀.granted a) → AccountEvent.Ok a e →
      Ready a plan (apply db e) ∧ (apply db e).credit a - db₀.credit a =
        (apply db e).granted a - db₀.granted a := by
    rintro db e ⟨h, hcredit⟩ he
    obtain ⟨hnext, -, hpurse, hgranted⟩ := apply_purse h he
    have hsame : (apply db e).credit a = (taken a plan db e).credit + brings a db e :=
      congrArg Purse.credit hpurse
    have htaken : (taken a plan db e).credit = db.credit a := by
      cases e with
      | topUp args => rfl
      | chat req during => simp only [taken]; split <;> rfl
    refine ⟨hnext, ?_⟩
    omega
  exact (invariant_runAll ⟨hready, by omega⟩ (everyStep_of_mem hok db₀) hstep).2

/-- What one event takes from credit is its request's share of its period. -/
theorem overflow_taken (a : String) (plan : Plan) (db : Db) (e : AccountEvent) (k : String) :
    (e.taken a plan db).overflow k - (db.purse a).overflow k =
      if e.inPeriod k then (e.taken a plan db).spent - db.spent a else 0 := by
  cases e with
  | topUp args => simp [taken, inPeriod]
  | chat req during =>
    simp only [taken, inPeriod, beq_iff_eq]
    -- a charge that does not land takes nothing
    split
    · simp only [Purse.take, Function.update_apply]
      by_cases hk : req.event.periodKey = k
      · subst hk
        rw [if_pos rfl, if_pos rfl]
        show _ = db.spent a + _ - db.spent a
        omega
      · rw [if_neg (Ne.symm hk), if_neg hk]
        omega
    · show _ = if _ then db.spent a - db.spent a else 0
      rw [sub_self, sub_self, ite_self]

theorem spentIn_run (hready : Ready a plan db₀) (hok : ∀ e ∈ es, e.Ok a) (k : String) :
    db₀.spentIn a k es =
      ((runAll apply db₀ es).purse a).overflow k - (db₀.purse a).overflow k := by
  refine total_eq_sub (g := fun db => (db.purse a).overflow k) hready (everyStep_of_mem hok db₀)
    (fun _ _ h he => ready_apply h he) (fun db e h he => ?_)
  have hpurse := (apply_purse h he).2.2.1
  have hspent : (apply db e).spent a = (taken a plan db e).spent := congrArg Purse.spent hpurse
  have hoverflow : ((apply db e).purse a).overflow k = (taken a plan db e).overflow k :=
    congrArg (fun p => p.overflow k) hpurse
  rw [hspent, hoverflow, overflow_taken a plan]

/-- The charges of a period are what it took from the allowance and what its requests
    added to spend. -/
theorem rowSum_run (hready : Ready a plan db₀) (hok : ∀ e ∈ es, e.Ok a)
    (hstart : ∀ k, db₀.allowanceSpent a k ≤ plan.monthlyIncludedMicroUsd) (k : String) :
    (runAll apply db₀ es).rowSum (.microUsd a k) - db₀.rowSum (.microUsd a k) =
      ((runAll apply db₀ es).allowanceSpent a k - db₀.allowanceSpent a k) +
        db₀.spentIn a k es := by
  obtain ⟨taken, htaken, hsum⟩ := (since_run hready hok hstart).charges_eq
  rw [spentIn_run hready hok, ← Db.chargedIn_purse, ← Db.chargedIn_purse, htaken,
    chargedIn_append]
  have := (hsum k).1
  simp only [Db.purse] at this ⊢
  omega

/-- From any gate on, the charges of a period stay below what the two pools held there
    and were given since, by less than the last charge. -/
theorem rowSum_lt (hready : Ready a plan db₀) (hok : ∀ e ∈ es, e.Ok a)
    (hstart : ∀ k, db₀.allowanceSpent a k ≤ plan.monthlyIncludedMicroUsd) (k : String) :
    (runAll apply db₀ es).rowSum (.microUsd a k) = db₀.rowSum (.microUsd a k) ∨
    ∃ row, (runAll apply db₀ es).lastCharge a k = some row ∧
      (runAll apply db₀ es).rowSum (.microUsd a k) - db₀.rowSum (.microUsd a k) <
        plan.monthlyIncludedMicroUsd + max 0 (db₀.credit a - db₀.spent a) +
          ((runAll apply db₀ es).granted a - db₀.granted a) + row.microUsd := by
  have hcredit := credit_run hready hok
  have hused := hready.allowanceSpent_nonneg k
  obtain ⟨taken, htaken, hsum⟩ := (since_run hready hok hstart).charges_eq
  -- what the period was charged since is what the purse took
  have hcharged : (runAll apply db₀ es).rowSum (.microUsd a k) =
      db₀.rowSum (.microUsd a k) + chargedIn k taken := by
    rw [← Db.chargedIn_purse, ← Db.chargedIn_purse, htaken, chargedIn_append]
  cases hlast : lastIn k taken with
  | none =>
    left
    rw [hcharged, chargedIn_of_lastIn_eq_none hlast, add_zero]
  | some c =>
    right
    have hrow : ((runAll apply db₀ es).lastCharge a k).map (·.microUsd) = some c := by
      rw [← Db.lastIn_purse, htaken]
      exact lastIn_append hlast
    obtain ⟨row, hlastRow, rfl⟩ := Option.map_eq_some_iff.mp hrow
    refine ⟨row, hlastRow, ?_⟩
    -- the last charge found the purse open, so all before it fit
    have hlt := (hsum k).2 _ hlast
    simp only [Db.purse] at hlt
    omega

/-! ## Periods no request is in -/

theorem taken_of_not_inPeriod (a : String) (plan : Plan) (db : Db) {e : AccountEvent}
    {k : String} (h : e.inPeriod k = false) :
    (e.taken a plan db).used k = db.allowanceSpent a k ∧
    chargedIn k (e.taken a plan db).charges = db.rowSum (.microUsd a k) := by
  rw [← Db.chargedIn_purse]
  cases e with
  | topUp args => exact ⟨rfl, rfl⟩
  | chat req during =>
    have hk : req.event.periodKey ≠ k := by simpa [inPeriod] using h
    simp only [taken]
    split
    · simp only [Purse.take, Function.update_apply, if_neg (Ne.symm hk), chargedIn_append,
        chargedIn_singleton, if_neg hk, add_zero]
      trivial
    · exact ⟨rfl, rfl⟩

/-- A period no request is in keeps its allowance and its charges. -/
theorem untouched_run {k : String} (hready : Ready a plan db₀) (hok : ∀ e ∈ es, e.Ok a)
    (hk : ∀ e ∈ es, e.inPeriod k = false) :
    (runAll apply db₀ es).allowanceSpent a k = db₀.allowanceSpent a k ∧
    (runAll apply db₀ es).rowSum (.microUsd a k) = db₀.rowSum (.microUsd a k) := by
  -- an event of another period leaves this one alone
  have hstep : ∀ db e, (Ready a plan db ∧ db.allowanceSpent a k = db₀.allowanceSpent a k ∧
      db.rowSum (.microUsd a k) = db₀.rowSum (.microUsd a k)) →
      AccountEvent.Ok a e ∧ e.inPeriod k = false →
      Ready a plan (apply db e) ∧ (apply db e).allowanceSpent a k = db₀.allowanceSpent a k ∧
        (apply db e).rowSum (.microUsd a k) = db₀.rowSum (.microUsd a k) := by
    rintro db e ⟨h, hallowance, hrows⟩ ⟨he, hek⟩
    obtain ⟨hnext, -, hpurse, -⟩ := apply_purse h he
    obtain ⟨hused, hcharged⟩ := taken_of_not_inPeriod a plan db hek
    refine ⟨hnext, ?_, ?_⟩
    · show ((apply db e).purse a).used k = _
      rw [hpurse]
      exact hused.trans hallowance
    · rw [← Db.chargedIn_purse, hpurse]
      exact hcharged.trans hrows
  exact (invariant_runAll ⟨hready, rfl, rfl⟩
    (everyStep_of_mem (fun e he => ⟨hok e he, hk e he⟩) db₀) hstep).2

/-! ## One more request -/

/-- Spend only advances in a request that leaves the allowance of its period used up. -/
theorem allowance_full {db : Db} (hready : Ready a plan db)
    (hused : ∀ k, db.allowanceSpent a k ≤ plan.monthlyIncludedMicroUsd) {e : AccountEvent}
    (he : e.Ok a) (hspent : db.spent a < (apply db e).spent a) :
    ∃ k, e.inPeriod k = true ∧
      (apply db e).allowanceSpent a k = plan.monthlyIncludedMicroUsd := by
  have hsince := (Since.refl (p := db.purse a) hused).step (step_purse hready he)
  have hpurse := (apply_purse hready he).2.2.1
  have hsame : (apply db e).spent a = (taken a plan db e).spent := congrArg Purse.spent hpurse
  cases e with
  -- a top-up spends nothing
  | topUp args => exact absurd hspent (by rw [hsame]; exact lt_irrefl _)
  | chat req during =>
    have hin : (AccountEvent.chat req during).inPeriod req.event.periodKey = true := by
      simp [inPeriod]
    refine ⟨req.event.periodKey, hin, hsince.overflow_full req.event.periodKey ?_⟩
    have hover := overflow_taken a plan db (.chat req during) req.event.periodKey
    rw [hin, if_pos rfl] at hover
    rw [hpurse]
    show _ < (taken a plan db (.chat req during)).overflow req.event.periodKey
    omega

/-- The first charge of a period has the whole allowance before it. -/
theorem first_charge {db : Db} (hready : Ready a plan db) {req : DoorRequest}
    {during : List (List GrantCreditArgs)} (he : (AccountEvent.chat req during).Ok a)
    (hfresh : db.allowanceSpent a req.event.periodKey = 0) (hlands : req.lands plan db = true) :
    (apply db (.chat req during)).allowanceSpent a req.event.periodKey =
      min req.event.microUsd plan.monthlyIncludedMicroUsd ∧
    (apply db (.chat req during)).spent a =
      db.spent a + max 0 (req.event.microUsd - plan.monthlyIncludedMicroUsd) := by
  obtain ⟨row, -, hvalid⟩ := hready.onPlan
  have hplan := (planFromRow_ok hvalid).2.2.2.1
  have hpurse := (apply_purse hready he).2.2.1
  have htaken : taken a plan db (.chat req during) =
      (db.purse a).take plan.monthlyIncludedMicroUsd req.event.periodKey req.event.microUsd := by
    simp only [taken, hlands, if_true]
  rw [htaken] at hpurse
  -- nothing of the allowance is used yet
  have hzero : (db.purse a).used req.event.periodKey = 0 := hfresh
  have hused : (db.purse a).used req.event.periodKey ≤ plan.monthlyIncludedMicroUsd := by omega
  constructor
  · show ((apply db (.chat req during)).purse a).used _ = _
    rw [hpurse]
    show ((db.purse a).take _ _ _).used _ = _
    rw [take_used hused, if_pos rfl]
    omega
  · show ((apply db (.chat req during)).purse a).spent = _
    rw [hpurse]
    show ((db.purse a).take _ _ _).spent = (db.purse a).spent + _
    rw [take_spent hused]
    omega

/-! ## Every run -/

/-- For every run of an account's chat requests and top-ups on a valid plan: no
    period's allowance is overdrawn, and its charges are its allowance and its share
    of spend; spend advances only in a request that leaves the allowance used up; from
    the first gate of a period its charges stay within both pools and the top-ups
    since, but for less than the last charge; and a new period has its whole allowance
    while credit has moved by the top-ups alone. -/
theorem period_charges (hplan : db₀.OnPlan a plan)
    (hstart : ∀ k, 0 ≤ db₀.allowanceSpent a k ∧
      db₀.allowanceSpent a k ≤ plan.monthlyIncludedMicroUsd)
    (hok : ∀ e ∈ es, e.Ok a) :
    let db := runAll apply db₀ es
    (∀ k, db.allowanceSpent a k ≤ plan.monthlyIncludedMicroUsd ∧
      db.rowSum (.microUsd a k) - db₀.rowSum (.microUsd a k) =
        (db.allowanceSpent a k - db₀.allowanceSpent a k) + db₀.spentIn a k es) ∧
    (∀ e : AccountEvent, e.Ok a → db.spent a < (apply db e).spent a →
      ∃ k, e.inPeriod k = true ∧
        (apply db e).allowanceSpent a k = plan.monthlyIncludedMicroUsd) ∧
    (∀ k before req during after, es = before ++ .chat req during :: after →
      req.event.periodKey = k → (∀ e ∈ before, e.inPeriod k = false) →
      let gate := runAll apply db₀ before
      db.rowSum (.microUsd a k) = db₀.rowSum (.microUsd a k) ∨
      ∃ row, db.lastCharge a k = some row ∧
        db.rowSum (.microUsd a k) - db₀.rowSum (.microUsd a k) <
          plan.monthlyIncludedMicroUsd + max 0 (gate.credit a - gate.spent a) +
            (db.granted a - gate.granted a) + row.microUsd) ∧
    (∀ k, (∀ e ∈ es, e.inPeriod k = false) → db₀.allowanceSpent a k = 0 →
      db.allowanceSpent a k = 0 ∧
      ∀ req during, (AccountEvent.chat req during).Ok a → req.event.periodKey = k →
        req.lands plan db = true →
        (apply db (.chat req during)).allowanceSpent a k =
          min req.event.microUsd plan.monthlyIncludedMicroUsd ∧
        (apply db (.chat req during)).spent a =
          db.spent a + max 0 (req.event.microUsd - plan.monthlyIncludedMicroUsd)) ∧
    db.credit a - db₀.credit a = db.granted a - db₀.granted a := by
  have hready : Ready a plan db₀ := ⟨hplan, fun k => (hstart k).1⟩
  have hle : ∀ k, db₀.allowanceSpent a k ≤ plan.monthlyIncludedMicroUsd := fun k => (hstart k).2
  -- what the start has, every state of the run has
  have hready' := ready_run hready hok
  have hused := (since_run hready hok hle).used_le
  refine ⟨fun k => ⟨hused k, rowSum_run hready hok hle k⟩,
    fun e he hspent => allowance_full hready' hused he hspent, ?_, ?_, credit_run hready hok⟩
  · rintro k before req during after rfl - hbefore
    -- the run is cut at the gate: before it the period has no charge
    have hokBefore : ∀ e ∈ before, e.Ok a := fun e he => hok e (by simp [he])
    have hokAfter : ∀ e ∈ AccountEvent.chat req during :: after, e.Ok a :=
      fun e he => hok e (List.mem_append_right _ he)
    have hgate := ready_run hready hokBefore
    have hgateUsed := (since_run hready hokBefore hle).used_le
    have hlt := rowSum_lt hgate hokAfter hgateUsed k
    rw [(untouched_run hready hokBefore hbefore).2, ← runAll_append] at hlt
    exact hlt
  · -- a period no request was in is as it was at the start
    intro k hnone hfresh
    have hzero := (untouched_run hready hok hnone).1.trans hfresh
    refine ⟨hzero, ?_⟩
    rintro req during he rfl hlands
    exact first_charge hready' he hzero hlands

/-- A chat request of one account for a metered answer. -/
def chatRequest (accountId id periodKey : String) (microUsd : Int) : DoorRequest where
  door := .chat
  event := ⟨id, id, accountId, "client", "model", periodKey, none, none, microUsd, 0, 0, true,
    .measured, none, none, none⟩
  answered := true
  units := 0
  minCharge := 0
  createdAt := 0

/-- A plan with an allowance of 20, for the runs below. -/
def smallPlanRow : PlanRow := ⟨"free", "Free", 0, 20, 60, 1000, "[]"⟩

/-- A month whose charge straddles both pools with a top-up falling into it, then a
    request in the next month. -/
theorem period_charges_straddle :
    let db₀ := Db.withAccount smallPlanRow ⟨"acct", "free", none, none, 5, 0⟩
    let db := runAll apply db₀ [.chat (chatRequest "acct" "req-1" "2026-07" 30)
      [[], [⟨"grant", "acct", 7, "key", none⟩]], .chat (chatRequest "acct" "req-2" "2026-08" 15) []]
    db.allowanceSpent "acct" "2026-07" ≤ 20 ∧ db.spent "acct" = 10 ∧ db.credit "acct" = 12 ∧
      db.allowanceSpent "acct" "2026-08" = 15 := by
  intro db₀ db
  have hplan : db₀.OnPlan "acct" ⟨"free", "Free", 0, 20, 60, 1000, []⟩ := ⟨smallPlanRow, rfl, rfl⟩
  refine ⟨((period_charges hplan (fun k => ⟨le_rfl, show (0 : Int) ≤ 20 by decide⟩)
    ?_).1 "2026-07").1, by decide, by decide,
    by decide⟩
  simp [AccountEvent.Ok, chatRequest]

end ControlPlane
