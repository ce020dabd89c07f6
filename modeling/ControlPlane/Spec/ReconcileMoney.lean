import ControlPlane.ForStd.Run
import ControlPlane.Spec.FeedReading

/-!
# What reconciliation does to the money

A run moves money by inserting a true-up under the gateway log's key and, where
the row landed, moving its amount. Whatever the feeds answer and wherever each
run is cut, the money that moved is the money of some of the rows that landed,
and no gateway log has two of those.

## Key results

- `TrueUps`: what a sequence of runs has done since its first state
- `wp_runReconcile`: a run keeps it, after each of its statements
- `reconcileState_of_failed`: a run that fails leaves the stored watermark
- `reconcile_moves_once`: both, over any sequence of live runs
-/

namespace ControlPlane

open Script Run

namespace LiveRun

/-- The run did not come to a report. -/
def Fails (run : LiveRun) (db : Db) : Prop :=
  ∀ report, (runFor run.cut run.script db).1 ≠ .done (some (.ok report))

/-- The row is on some page of the run's feed. -/
def Presents (run : LiveRun) (log : GatewayLogRow) : Prop :=
  ∃ since page perPage batch,
    run.live.source.listSince since page perPage = .ok batch ∧ log ∈ batch.rows

end LiveRun

/-- The row is the true-up `decideAdjustment` asks for, of a log row of the feed
    against the ledger row it joins to, in that row's account and period. -/
def TrueUpOf (fed : GatewayLogRow → Prop) (db : Db) (row : UsageAdjustmentRow) : Prop :=
  ∃ log event adjustment id, fed log ∧ db.joined log = some event ∧
    decideAdjustment log (some event.ledgerEstimate) = .adjust adjustment ∧
    row = adjustmentRow id log adjustment ∧
    row.accountId = event.accountId ∧ row.periodKey = event.periodKey

/-- What runs have done since `db₀`: which true-ups landed, and which of those moved
    their money. -/
structure TrueUps (fed : GatewayLogRow → Prop) (db₀ db : Db)
    (landed moved : List UsageAdjustmentRow) : Prop where
  events : db.usageEvents = db₀.usageEvents
  accounts : ∀ a, (db.accounts a).isSome = (db₀.accounts a).isSome
  stored : db.usageAdjustments = db₀.usageAdjustments ++ landed
  once : (landed.map (·.idempotencyKey)).Nodup
  new : ∀ row ∈ landed, ∀ old ∈ db₀.usageAdjustments, old.idempotencyKey ≠ row.idempotencyKey
  decided : ∀ row ∈ landed, TrueUpOf fed db₀ row
  sublist : moved.Sublist landed
  counters : ∀ counter, db.counter counter = db₀.counter counter + (moved.map (·.share counter)).sum
  credits : ∀ a, db.credit a = db₀.credit a + (moved.map (·.creditShare a)).sum

namespace TrueUps

variable {fed : GatewayLogRow → Prop} {db₀ db : Db} {landed moved : List UsageAdjustmentRow}
  {row : UsageAdjustmentRow}

theorem refl (fed : GatewayLogRow → Prop) (db : Db) : TrueUps fed db db [] [] :=
  ⟨rfl, fun _ => rfl, by simp, by simp, by simp, by simp, by simp, by simp, by simp⟩

/-- A true-up lands: its key was not taken, and nothing has moved yet. -/
theorem land (h : TrueUps fed db₀ db landed moved) (hrow : TrueUpOf fed db₀ row)
    (hfree : db.adjustmentTaken row = false) :
    TrueUps fed db₀ (db.addAdjustment row) (landed ++ [row]) moved := by
  -- the row landed, so no stored row has its key
  have hkeys : ∀ old ∈ db.usageAdjustments, old.idempotencyKey ≠ row.idempotencyKey :=
    fun old hold hkey => by simp [db.adjustmentTaken_of_mem hold hkey] at hfree
  rw [h.stored] at hkeys
  refine ⟨h.events, h.accounts, ?_, ?_, ?_, ?_, ?_, h.counters, h.credits⟩
  · rw [Db.addAdjustment_usageAdjustments, h.stored, List.append_assoc]
  · rw [List.map_append, List.nodup_append]
    refine ⟨h.once, by simp, fun key hkey key' hkey' => ?_⟩
    obtain ⟨old, hold, rfl⟩ := List.mem_map.mp hkey
    obtain rfl := List.mem_singleton.mp hkey'
    exact hkeys old (List.mem_append_right _ hold)
  · intro x hx
    rcases List.mem_append.mp hx with hx | hx
    · exact h.new x hx
    · obtain rfl := List.mem_singleton.mp hx
      exact fun old hold => hkeys old (List.mem_append_left _ hold)
  · intro x hx
    rcases List.mem_append.mp hx with hx | hx
    · exact h.decided x hx
    · exact List.mem_singleton.mp hx ▸ hrow
  · exact h.sublist.trans (List.sublist_append_left landed [row])

/-- The money of a true-up that just landed moves. -/
theorem move (h : TrueUps fed db₀ db landed moved) (hrow : TrueUpOf fed db₀ row)
    (hfree : db.adjustmentTaken row = false) (haccount : (db₀.accounts row.accountId).isSome) :
    TrueUps fed db₀ ((db.addAdjustment row).moveMoney row) (landed ++ [row]) (moved ++ [row]) := by
  -- the row is there, and its money moves beside it
  have hland := h.land hrow hfree
  have hsome : ((db.addAdjustment row).accounts row.accountId).isSome := by
    rw [hland.accounts]; exact haccount
  refine ⟨by simpa using hland.events, fun a => by simpa using hland.accounts a,
    by simpa using hland.stored, hland.once, hland.new, hland.decided,
    h.sublist.append_right [row], fun counter => ?_, fun a => ?_⟩
  · rw [(db.addAdjustment row).counter_moveMoney row hsome, Pi.add_apply, hland.counters counter]
    simp [add_assoc]
  · rw [(db.addAdjustment row).credit_moveMoney row a hsome, hland.credits a]
    simp [add_assoc]

end TrueUps

/-! ## A run keeps the invariant after each statement -/

section

variable {fed : GatewayLogRow → Prop} {db₀ : Db}

/-- The runs so far have done nothing but true-ups. -/
def TruedUp (fed : GatewayLogRow → Prop) (db₀ db : Db) : Prop :=
  ∃ landed moved, TrueUps fed db₀ db landed moved

/-- A script that keeps `TruedUp` at each of its statements, whatever it returns. -/
abbrev KeepsTruedUp {α : Type} (fed : GatewayLogRow → Prop) (db₀ : Db) (p : Script Db α)
    (db : Db) : Prop :=
  p.wp (TruedUp fed db₀) (fun _ => TruedUp fed db₀) db

theorem wp_applyUsageAdjustment {db : Db} {row : UsageAdjustmentRow} (h : TruedUp fed db₀ db)
    (hrow : TrueUpOf fed db₀ row) (haccount : (db₀.accounts row.accountId).isSome) :
    KeepsTruedUp fed db₀ (applyUsageAdjustment row) db := by
  obtain ⟨landed, moved, hups⟩ := h
  simp only [KeepsTruedUp, applyUsageAdjustment, bind_eq_bind, wp_bind, wp_exec]
  cases htaken : db.adjustmentTaken row with
  -- the log was trued up before, in this run or another
  | true =>
    rw [db.insertAdjustment_of_taken htaken]
    exact ⟨⟨landed, moved, hups⟩, landed, moved, hups⟩
  | false =>
    rw [db.insertAdjustment_of_free htaken]
    have hmove := hups.move hrow htaken haccount
    exact ⟨⟨_, _, hups.land hrow htaken⟩, ⟨_, _, hmove⟩, _, _, hmove⟩

variable (args : ReconcileRunArgs)

/-- The lookup finds what the first state's ledger holds. -/
theorem wp_readLedger {db : Db} (h : TruedUp fed db₀ db) (log : GatewayLogRow) :
    (ReconcileRunArgs.readLedger log).wp (TruedUp fed db₀)
      (fun event db' => TruedUp fed db₀ db' ∧
        ∀ estimate, event = some estimate → ∃ row, db₀.joined log = some row ∧
          estimate = row.ledgerEstimate) db := by
  unfold ReconcileRunArgs.readLedger
  split
  · simp only [getUsageEventByRequestId, bind_eq_bind, wp_bind, wp_read]
    refine ⟨h, h, fun estimate hestimate => ?_⟩
    obtain ⟨row, hrow, rfl⟩ := Option.map_eq_some_iff.mp hestimate
    obtain ⟨landed, moved, hups⟩ := h
    exact ⟨row, by rw [Db.joined, ← hups.events, hrow], rfl⟩
  · exact ⟨h, by simp⟩

theorem wp_processRow (howned : ∀ event ∈ db₀.usageEvents, (db₀.accounts event.accountId).isSome)
    {db : Db} (h : TruedUp fed db₀ db) {log : GatewayLogRow} (hlog : fed log) (st : LoopState) :
    KeepsTruedUp fed db₀ (args.processRow log st) db := by
  simp only [KeepsTruedUp, ReconcileRunArgs.processRow, bind_eq_bind, wp_bind]
  refine wp_mono ?_ (wp_readLedger h log)
  rintro event db' ⟨h', hevent⟩
  unfold ReconcileRunArgs.applyOutcome
  cases hdecide : decideAdjustment log event with
  | skipped reason detail => exact h'
  | inAgreement microUsd estimate => exact h'
  | adjust adjustment =>
    dsimp only
    split
    · exact h'
    -- only a row that joined can ask for an adjustment
    obtain ⟨estimate, rfl, cost, -, hcompare⟩ := adjust_of_decideAdjustment hdecide
    obtain ⟨row, hrow, rfl⟩ := hevent estimate rfl
    simp only [bind_eq_bind, wp_bind]
    have hsame : adjustment.event = row.ledgerEstimate := (compareCost_adjust hcompare).1
    refine wp_mono (fun _ _ h => h) (wp_applyUsageAdjustment h'
      ⟨log, row, adjustment, _, hlog, hrow, hdecide, rfl, ?_, ?_⟩ ?_)
    · simp only [adjustmentRow, hsame]
      rfl
    · simp only [adjustmentRow, hsame]
      rfl
    · simp only [adjustmentRow, hsame]
      exact howned row (List.mem_of_find?_eq_some hrow)

theorem wp_processRows
    (howned : ∀ event ∈ db₀.usageEvents, (db₀.accounts event.accountId).isSome)
    (logs : List GatewayLogRow) (hlogs : ∀ log ∈ logs, fed log) (st : LoopState) {db : Db}
    (h : TruedUp fed db₀ db) : KeepsTruedUp fed db₀ (args.processRows logs st) db := by
  induction logs generalizing st db with
  | nil => exact h
  | cons log rest ih =>
    unfold ReconcileRunArgs.processRows
    split
    · exact h
    split
    · exact h
    simp only [KeepsTruedUp, bind_eq_bind, wp_bind]
    -- a row may land and move, and the rest of them after it
    refine wp_mono (fun st' db' h' => ?_) (wp_processRow args howned h (hlogs log (by simp)) st)
    exact ih (fun x hx => hlogs x (by simp [hx])) st' h'

/-- The induction is on the pages the run lives to request. -/
theorem wp_pageLoop (howned : ∀ event ∈ db₀.usageEvents, (db₀.accounts event.accountId).isSome)
    (hfed : ∀ since page perPage batch,
      args.source.listSince since page perPage = .ok batch → ∀ log ∈ batch.rows, fed log)
    (floor : Int) (lifetime page : Nat) (st : LoopState) {db : Db} (h : TruedUp fed db₀ db) :
    KeepsTruedUp fed db₀ (args.pageLoop floor lifetime page st) db := by
  -- one page, then the rest of the loop
  induction lifetime generalizing page st db with
  | zero => exact h
  | succ lifetime ih =>
    unfold ReconcileRunArgs.pageLoop
    split
    · exact h
    next batch hbatch =>
      simp only [KeepsTruedUp, bind_eq_bind, wp_bind]
      refine wp_mono (fun st' db' h' => ?_)
        (wp_processRows args howned batch.rows (hfed _ _ _ _ hbatch) _ h)
      split
      · exact h'
      split
      · exact h'
      exact ih _ st' h'

theorem wp_prepare (howned : ∀ event ∈ db₀.usageEvents, (db₀.accounts event.accountId).isSome)
    (hfed : ∀ since page perPage batch,
      args.source.listSince since page perPage = .ok batch → ∀ log ∈ batch.rows, fed log)
    (lifetime : Nat) {db : Db} (h : TruedUp fed db₀ db) :
    KeepsTruedUp fed db₀ (args.prepare lifetime) db := by
  simp only [KeepsTruedUp, ReconcileRunArgs.prepare, getReconcileState, bind_eq_bind, wp_bind,
    wp_read]
  refine ⟨h, ?_⟩
  split
  · exact h
  -- the loop writes, the check afterwards only reads
  next floor hfloor =>
    simp only [wp_bind]
    refine wp_mono (fun looped db' h' => ?_) (wp_pageLoop args howned hfed floor lifetime 1 _ h)
    split
    · exact h'
    · exact h'
    · simp only [wp_bind, ReconcileRunArgs.reverseCheck, listUsageEventsBetween, bind_eq_bind,
        wp_read]
      exact ⟨h', h'⟩

/-- The last write touches no money. -/
theorem TruedUp.advance {db : Db} (h : TruedUp fed db₀ db) (adv : AdvanceReconcileStateArgs) :
    TruedUp fed db₀ (db.advanceReconcileState adv) := by
  obtain ⟨landed, moved, hups⟩ := h
  refine ⟨landed, moved, hups.events, hups.accounts, hups.stored, hups.once, hups.new,
    hups.decided, hups.sublist, fun counter => ?_, hups.credits⟩
  rw [← hups.counters counter]
  cases counter <;> rfl

/-- A run keeps the invariant, after each of its statements. -/
theorem wp_runReconcile
    (howned : ∀ event ∈ db₀.usageEvents, (db₀.accounts event.accountId).isSome)
    (hfed : ∀ since page perPage batch,
      args.source.listSince since page perPage = .ok batch → ∀ log ∈ batch.rows, fed log)
    (lifetime : Nat) {db : Db} (h : TruedUp fed db₀ db) :
    KeepsTruedUp fed db₀ (runReconcile args lifetime) db := by
  simp only [KeepsTruedUp, runReconcile, bind_eq_bind, wp_bind]
  refine wp_mono (fun prepared db' h' => ?_) (wp_prepare args howned hfed lifetime h)
  unfold ReconcileRunArgs.finish
  split
  · exact h'
  · exact h'
  unfold ReconcileRunArgs.commit
  split
  · exact h'
  -- the last write advances the state, and moves no money
  · exact ⟨h'.advance _, h'.advance _⟩

end

/-! ## The watermark moves last -/

/-- A run that does not come to its report leaves every stored watermark. -/
theorem reconcileState_of_failed {run : LiveRun} {db : Db} (h : run.Fails db) :
    (db.liveRun run).reconcileState = db.reconcileState := by
  have hsteps := steps_prepare run.live run.lifetime
  have htrans : ∀ a b c : Db, SameReconcileState a b → SameReconcileState b c →
      SameReconcileState a c := fun _ _ _ hab hbc => hbc.trans hab
  unfold LiveRun.Fails LiveRun.script runReconcile at h
  unfold Db.liveRun LiveRun.script runReconcile
  simp only [bind_eq_bind] at h ⊢
  rcases runFor_bind run.cut (run.live.prepare run.lifetime) run.live.finish db with
    ⟨p', hcut⟩ | ⟨k, hcut⟩
  · rw [hcut]
    exact hsteps.runFor (fun _ => rfl) htrans run.cut db
  · -- the preparation is over: only a report's last write is left
    rw [hcut] at h ⊢
    have hprepared := hsteps.run (fun _ => rfl) htrans db
    revert h
    unfold ReconcileRunArgs.finish
    split
    · simp [hprepared]
    · simp [hprepared]
    next prepared _ =>
      rw [commit_of_live rfl prepared]
      intro h
      cases k with
      | zero => simpa using hprepared
      | succ k => exact absurd (by rw [runFor_succ_stmt, runFor_done]) (h _)

/-! ## Any sequence of live runs -/

theorem truedUp_liveRuns {fed : GatewayLogRow → Prop} {db₀ : Db}
    (howned : ∀ event ∈ db₀.usageEvents, (db₀.accounts event.accountId).isSome)
    (runs : List LiveRun) (hfed : ∀ run ∈ runs, ∀ log, run.Presents log → fed log) {db : Db}
    (h : TruedUp fed db₀ db) : TruedUp fed db₀ (runAll Db.liveRun db runs) := by
  induction runs generalizing db with
  | nil => exact h
  | cons run rest ih =>
    refine ih (fun r hr => hfed r (by simp [hr])) ?_
    refine (wp_runFor run.cut h (wp_runReconcile run.live howned
      (fun since page perPage batch hbatch log hlog => ?_) run.lifetime h)).1
    exact hfed run (by simp) log ⟨since, page, perPage, batch, hbatch, hlog⟩

/-- Whatever the feeds of a sequence of live runs answer and wherever each run
    ends: the ledger is untouched; no gateway log has two true-ups; every true-up
    is the one `decideAdjustment` asked for; the money that moved is that of some
    of them; and a run that failed left the stored watermarks. -/
theorem reconcile_moves_once {db₀ : Db}
    (howned : ∀ event ∈ db₀.usageEvents, (db₀.accounts event.accountId).isSome)
    (runs : List LiveRun) :
    (∃ landed moved : List UsageAdjustmentRow,
      (runAll Db.liveRun db₀ runs).usageEvents = db₀.usageEvents ∧
      (runAll Db.liveRun db₀ runs).usageAdjustments = db₀.usageAdjustments ++ landed ∧
      (landed.map (·.gatewayLogId)).Nodup ∧
      (∀ row ∈ landed, ∀ old ∈ db₀.usageAdjustments, old.idempotencyKey ≠ row.idempotencyKey) ∧
      (∀ row ∈ landed, TrueUpOf (fun log => ∃ run ∈ runs, run.Presents log) db₀ row) ∧
      moved.Sublist landed ∧
      (∀ counter, (runAll Db.liveRun db₀ runs).counter counter =
        db₀.counter counter + (moved.map (·.share counter)).sum) ∧
      (∀ a, (runAll Db.liveRun db₀ runs).credit a =
        db₀.credit a + (moved.map (·.creditShare a)).sum)) ∧
    EveryStep Db.liveRun (fun db run =>
      run.Fails db → (db.liveRun run).reconcileState = db.reconcileState) db₀ runs := by
  refine ⟨?_, everyStep_of_forall (fun _ _ => reconcileState_of_failed) db₀ runs⟩
  have hfed : ∀ run ∈ runs, ∀ log, run.Presents log → ∃ run ∈ runs, run.Presents log :=
    fun run hrun log hlog => ⟨run, hrun, hlog⟩
  obtain ⟨landed, moved, hups⟩ :=
    truedUp_liveRuns howned runs hfed ⟨[], [], TrueUps.refl _ db₀⟩
  refine ⟨landed, moved, hups.events, hups.stored, ?_, hups.new, hups.decided, hups.sublist,
    hups.counters, hups.credits⟩
  -- the key is a function of the log id, so distinct keys are distinct log ids
  have hkeys : landed.map (·.idempotencyKey) =
      (landed.map (·.gatewayLogId)).map adjustmentIdempotencyKey := by
    rw [List.map_map]
    refine List.map_congr_left (fun row hrow => ?_)
    obtain ⟨log, event, adjustment, id, -, -, -, rfl, -, -⟩ := hups.decided row hrow
    rfl
  exact List.Nodup.of_map _ (hkeys ▸ hups.once)

/-! ## A run that is repeated -/

/-- The gateway billed 140, and the run is repeated: 40 are charged once. -/
theorem reconcile_moves_once_repeated :
    let runs := [billedRun [billedLog "log-1" 140] "a" 20, billedRun [billedLog "log-1" 140] "b" 20]
    (runAll Db.liveRun chargedStore runs).spent "acct" = 140 ∧
    ((runAll Db.liveRun chargedStore runs).usageAdjustments.map (·.gatewayLogId)).Nodup := by
  intro runs
  refine ⟨by decide +kernel, ?_⟩
  obtain ⟨⟨landed, moved, -, hstored, honce, -⟩, -⟩ :=
    @reconcile_moves_once chargedStore (by decide +kernel) runs
  rw [hstored]
  exact honce

end ControlPlane
