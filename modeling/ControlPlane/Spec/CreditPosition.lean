import ControlPlane.Spec.PeriodCharges

/-!
# How far prepaid credit can go below zero

A request that finds credit used up is still let through while its period has
allowance left, and what its charge has over that goes below zero once more. Every
period can add to the overdraft that way, so it is not bounded by one charge. It is
where no charge that exceeds its period's allowance is let in on an account that is
overdrawn already.

## Key results

- `position_step`: one event keeps the overdraft within the largest charge
- `position_bounded`: every state of a run does
- `position_accumulates`: four months that each add to the overdraft
-/

namespace ControlPlane

open Run TwoPools AccountEvent

variable {a : String} {plan : Plan} {db₀ : Db} {es : List AccountEvent}

/-- The charges an account has taken since `db₀`. -/
def Db.chargesSince (db₀ : Db) (a : String) (db : Db) : List Int :=
  ((db.purse a).charges.drop (db₀.purse a).charges.length).map (·.2)

/-- The largest of them, zero when there is none. -/
def Db.largestSince (db₀ : Db) (a : String) (db : Db) : Int :=
  (db₀.chargesSince a db).foldr max 0

/-- The overdraft is no more than one charge of the run. -/
def Db.PositionBounded (db₀ : Db) (a : String) (db : Db) : Prop :=
  max 0 (db.spent a - db.credit a) ≤ db₀.largestSince a db

/-- Where a request is charged, what is left of its period's allowance covers the charge, or
    the account has not overdrawn its credit when the request comes in. -/
def AccountEvent.Fits (a : String) (plan : Plan) (db : Db) : AccountEvent → Prop
  | .topUp _ => True
  | .chat req _ => req.lands plan db = true →
    req.event.microUsd ≤
        plan.monthlyIncludedMicroUsd - db.allowanceSpent a req.event.periodKey ∨
      db.spent a ≤ db.credit a

/-- What holds between two events of a run from `db₀`. -/
structure Position (db₀ : Db) (a : String) (plan : Plan) (db : Db) : Prop where
  ready : Ready a plan db
  used_le : ∀ k, db.allowanceSpent a k ≤ plan.monthlyIncludedMicroUsd
  charges : ∃ since, (db.purse a).charges = (db₀.purse a).charges ++ since

theorem foldr_max_nonneg (xs : List Int) : 0 ≤ xs.foldr max 0 := by
  induction xs with
  | nil => exact le_rfl
  | cons x xs ih =>
    show 0 ≤ max x (xs.foldr max 0)
    omega

theorem foldr_max_append_singleton (xs : List Int) {c : Int} (hc : 0 ≤ c) :
    (xs ++ [c]).foldr max 0 = max (xs.foldr max 0) c := by
  induction xs with
  | nil =>
    show max c 0 = max 0 c
    omega
  | cons x xs ih =>
    show max x ((xs ++ [c]).foldr max 0) = max (max x (xs.foldr max 0)) c
    rw [ih, max_assoc]

theorem positionBounded_iff (db₀ : Db) (a : String) (db : Db) :
    db₀.PositionBounded a db ↔ db.spent a - db.credit a ≤ db₀.largestSince a db := by
  have hlargest : 0 ≤ db₀.largestSince a db := foldr_max_nonneg _
  unfold Db.PositionBounded
  omega

/-- An event keeps what holds between events. -/
theorem Position.apply {db : Db} (h : Position db₀ a plan db) {e : AccountEvent} (he : e.Ok a) :
    Position db₀ a plan (AccountEvent.apply db e) := by
  have hsince := (Since.refl (p := db.purse a) h.used_le).step (step_purse h.ready he)
  obtain ⟨since, hcharges⟩ := h.charges
  obtain ⟨taken, htaken, -⟩ := hsince.charges_eq
  exact ⟨ready_apply h.ready he, hsince.used_le, since ++ taken, by
    rw [htaken, hcharges, List.append_assoc]⟩

/-- One more charge since `db₀`. -/
theorem largestSince_take {db db' : Db} (h : Position db₀ a plan db) {k : String} {c n : Int}
    (hc : 0 ≤ c)
    (hpurse : db'.purse a = ((db.purse a).take plan.monthlyIncludedMicroUsd k c).grant n) :
    db₀.largestSince a db' = max (db₀.largestSince a db) c := by
  obtain ⟨since, hcharges⟩ := h.charges
  have hcharges' : (db'.purse a).charges = (db.purse a).charges ++ [(k, c)] := by
    rw [hpurse]
    rfl
  -- the charges since the start are those before and the one just taken
  simp only [Db.largestSince, Db.chargesSince, hcharges', hcharges, List.append_assoc,
    List.drop_left, List.map_append, List.map_cons, List.map_nil]
  exact foldr_max_append_singleton _ hc

/-- Without a charge the overdraft does not grow. -/
theorem positionBounded_grant {db db' : Db} {n : Int} (hn : 0 ≤ n)
    (hpurse : db'.purse a = (db.purse a).grant n) (h : db₀.PositionBounded a db) :
    db₀.PositionBounded a db' := by
  have hspent : db'.spent a = db.spent a := congrArg Purse.spent hpurse
  have hcredit : db'.credit a = db.credit a + n := congrArg Purse.credit hpurse
  have hcharges : (db'.purse a).charges = (db.purse a).charges := by
    rw [hpurse]
    rfl
  have hlargest : db₀.largestSince a db' = db₀.largestSince a db := by
    simp only [Db.largestSince, Db.chargesSince, hcharges]
  rw [positionBounded_iff] at h ⊢
  rw [hspent, hcredit, hlargest]
  omega

/-- An event whose charge fits keeps the overdraft within the largest charge. -/
theorem position_step {db : Db} (h : Position db₀ a plan db) {e : AccountEvent} (he : e.Ok a)
    (hfits : e.Fits a plan db) (hbounded : db₀.PositionBounded a db) :
    db₀.PositionBounded a (AccountEvent.apply db e) := by
  obtain ⟨-, hbrings, hpurse, -⟩ := apply_purse h.ready he
  cases e with
  | topUp args => exact positionBounded_grant hbrings hpurse hbounded
  | chat req during =>
    cases hlands : req.lands plan db with
    -- nothing is charged, so credit can only grow
    | false =>
      simp only [taken, hlands, Bool.false_eq_true, if_false] at hpurse
      exact positionBounded_grant hbrings hpurse hbounded
    | true =>
      have hcharge := he.2.2.1
      simp only [taken, hlands, if_true] at hpurse
      -- the charge may be the largest so far
      have hlargest := largestSince_take h hcharge hpurse
      rw [positionBounded_iff] at hbounded ⊢
      have hspent := congrArg Purse.spent hpurse
      have hcredit := congrArg Purse.credit hpurse
      have hposition := take_position_le (p := db.purse a) (c := req.event.microUsd)
        (h.used_le req.event.periodKey) hbrings (hbounded.trans (le_max_left _ _))
        (le_max_right (db₀.largestSince a db) _) (hfits hlands)
      rw [← hspent, ← hcredit] at hposition
      rw [hlargest]
      exact hposition

/-- For every run of an account's chat requests and top-ups that starts with spend
    within credit, and in which no charge over its period's allowance finds credit
    overdrawn: the overdraft stays within the largest single charge, in every state. -/
theorem position_bounded (hplan : db₀.OnPlan a plan)
    (hstart : ∀ k, 0 ≤ db₀.allowanceSpent a k ∧
      db₀.allowanceSpent a k ≤ plan.monthlyIncludedMicroUsd)
    (hcredit : db₀.spent a ≤ db₀.credit a) (hok : ∀ e ∈ es, e.Ok a)
    (hfits : EveryStep AccountEvent.apply (AccountEvent.Fits a plan) db₀ es) :
    EveryState AccountEvent.apply (db₀.PositionBounded a) db₀ es := by
  have hposition : Position db₀ a plan db₀ :=
    ⟨⟨hplan, fun k => (hstart k).1⟩, fun k => (hstart k).2, [], by simp⟩
  have hbounded : db₀.PositionBounded a db₀ := by
    rw [positionBounded_iff]
    have : 0 ≤ db₀.largestSince a db₀ := foldr_max_nonneg _
    omega
  have hboth := everyState_of_everyStep
    (I := fun db => Position db₀ a plan db ∧ db₀.PositionBounded a db) ⟨hposition, hbounded⟩
    (hfits.and (everyStep_of_mem hok db₀))
    (fun _ _ h he => ⟨h.1.apply he.2, position_step h.1 he.2 he.1 h.2⟩)
  exact hboth.mono fun _ h => h.2

/-- Two months, each with its allowance left: the first uses up credit, the second fits. -/
theorem position_bounded_fits :
    let db₀ := Db.withAccount smallPlanRow ⟨"acct", "free", none, none, 5, 0⟩
    EveryState AccountEvent.apply (db₀.PositionBounded "acct") db₀
      [.chat (chatRequest "acct" "req-1" "2026-07" 30) [],
        .chat (chatRequest "acct" "req-2" "2026-08" 15) []] := by
  intro db₀
  have hplan : db₀.OnPlan "acct" ⟨"free", "Free", 0, 20, 60, 1000, []⟩ := ⟨smallPlanRow, rfl, rfl⟩
  refine position_bounded hplan (fun k => ⟨le_rfl, show (0 : Int) ≤ 20 by decide⟩) (by decide)
    ?_ ⟨fun _ => .inr (by decide), fun _ => .inl (by decide), trivial⟩
  simp [AccountEvent.Ok, chatRequest]

/-- Four months of one request each, every one of 30 against an allowance of 20: each
    adds 10 to an overdraft that ends at 40, more than any of the charges. -/
theorem position_accumulates :
    let db₀ := Db.withAccount smallPlanRow ⟨"acct", "free", none, none, 0, 0⟩
    let es := [AccountEvent.chat (chatRequest "acct" "req-1" "2026-07" 30) [],
      .chat (chatRequest "acct" "req-2" "2026-08" 30) [],
      .chat (chatRequest "acct" "req-3" "2026-09" 30) [],
      .chat (chatRequest "acct" "req-4" "2026-10" 30) []]
    db₀.OnPlan "acct" ⟨"free", "Free", 0, 20, 60, 1000, []⟩ ∧ (∀ e ∈ es, e.Ok "acct") ∧
    db₀.spent "acct" ≤ db₀.credit "acct" ∧
    db₀.chargesSince "acct" (runAll AccountEvent.apply db₀ es) = [30, 30, 30, 30] ∧
    (runAll AccountEvent.apply db₀ es).spent "acct" -
      (runAll AccountEvent.apply db₀ es).credit "acct" = 40 ∧
    ¬ EveryState AccountEvent.apply (db₀.PositionBounded "acct") db₀ es := by
  intro db₀ es
  refine ⟨⟨smallPlanRow, rfl, rfl⟩, by simp [es, AccountEvent.Ok, chatRequest], by decide,
    by decide, by decide, fun h => ?_⟩
  exact absurd h.last (by unfold Db.PositionBounded; decide)

end ControlPlane
