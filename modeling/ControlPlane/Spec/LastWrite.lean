import ControlPlane.Model.ReconcileRun
import ControlPlane.Spec.Adjustments

/-!
# The last write of a run

Every row is decided and applied before the watermark moves, and the watermark move
is the last write.

## Key results

- `steps_prepare_of`: what reads and true-ups keep, everything before the last write keeps
- `steps_prepare`: nothing before the last write touches a stored watermark
- `commit_of_live`: the last write, and what it answers
-/

namespace ControlPlane

open Script

/-- The statement leaves the stored watermarks. -/
abbrev SameReconcileState (db db' : Db) : Prop :=
  db'.reconcileState = db.reconcileState

theorem steps_applyUsageAdjustment (row : UsageAdjustmentRow) :
    (applyUsageAdjustment row).Steps SameReconcileState := by
  refine .bind (.exec fun db => rfl) (fun insert => ?_)
  split
  · exact .bind (.exec fun db => db.moveMoney_reconcileState row) (fun _ => .done true)
  · exact .done false

section

variable {args : ReconcileRunArgs} {R : Db → Db → Prop}

/-- The relation a row of the run keeps: reading keeps it, and so does a true-up where
    the run is live. -/
theorem steps_processRow (hread : ∀ db, R db db)
    (htrueUp : args.dryRun = false → ∀ row, (applyUsageAdjustment row).Steps R)
    (log : GatewayLogRow) (st : LoopState) : (args.processRow log st).Steps R := by
  refine .bind ?_ (fun event => ?_)
  · unfold ReconcileRunArgs.readLedger
    split
    · exact .bind (.read hread) (fun _ => .done _)
    · exact .done _
  · dsimp only
    unfold ReconcileRunArgs.applyOutcome
    split
    · exact .done _
    · exact .done _
    split
    · exact .done _
    -- only a live run writes
    next hlive =>
      rw [Bool.not_eq_true] at hlive
      exact .bind (htrueUp hlive _) (fun _ => .done _)

theorem steps_processRows (hread : ∀ db, R db db)
    (htrueUp : args.dryRun = false → ∀ row, (applyUsageAdjustment row).Steps R)
    (logs : List GatewayLogRow) (st : LoopState) : (args.processRows logs st).Steps R := by
  induction logs generalizing st with
  | nil => exact .done st
  | cons log rest ih =>
    unfold ReconcileRunArgs.processRows
    split
    · exact .done _
    split
    · exact .done _
    · exact .bind (steps_processRow hread htrueUp log st) ih

theorem steps_pageLoop (hread : ∀ db, R db db)
    (htrueUp : args.dryRun = false → ∀ row, (applyUsageAdjustment row).Steps R)
    (floor : Int) (lifetime page : Nat) (st : LoopState) :
    (args.pageLoop floor lifetime page st).Steps R := by
  induction lifetime generalizing page st with
  | zero => exact .done none
  | succ lifetime ih =>
    unfold ReconcileRunArgs.pageLoop
    split
    · exact .done _
    refine .bind (steps_processRows hread htrueUp _ _) (fun st' => ?_)
    split
    · exact .done _
    split
    · exact .done _
    · exact ih _ st'

/-- Before the last write there are only reads, and the true-ups of a live run. -/
theorem steps_prepare_of (hread : ∀ db, R db db)
    (htrueUp : args.dryRun = false → ∀ row, (applyUsageAdjustment row).Steps R)
    (lifetime : Nat) : (args.prepare lifetime).Steps R := by
  refine .bind (.read hread) (fun state => ?_)
  split
  · exact .done _
  refine .bind (steps_pageLoop hread htrueUp _ lifetime 1 _) (fun looped => ?_)
  split
  · exact .done _
  · exact .done _
  · exact .bind (.bind (.read hread) fun _ => .done _) (fun _ => .done _)

end

/-- Nothing before the last write touches a watermark. -/
theorem steps_prepare (args : ReconcileRunArgs) (lifetime : Nat) :
    (args.prepare lifetime).Steps SameReconcileState :=
  steps_prepare_of (R := SameReconcileState) (fun _ => rfl)
    (fun _ row => steps_applyUsageAdjustment row) lifetime

/-- The last write of a live run, and its report. -/
theorem commit_of_live {args : ReconcileRunArgs} (h : args.dryRun = false)
    (prepared : ReconcileRunArgs.Prepared) :
    args.commit prepared =
      .stmt (fun db => db.advanceReconcileState (args.advanceArgs prepared))
        (fun _ => .done (some (.ok (args.report prepared)))) := by
  simp only [ReconcileRunArgs.commit, h, Bool.false_eq_true, if_false]
  rfl

end ControlPlane
