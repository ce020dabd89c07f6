import ControlPlane.Spec.Grants

/-!
# True-ups at the store

`applyUsageAdjustment` inserts its audit row under the gateway log's key and, only
if the row landed, moves the money in one batch.

## Key results

- `insertAdjustment_of_taken` / `insertAdjustment_of_free`: the gate
- `credit_moveMoney` / `spent_moveMoney`: what the batch does to an account
- `run_applyUsageAdjustment_taken` / `run_applyUsageAdjustment_free`: a complete call
-/

namespace ControlPlane

open Script

/-- Some stored true-up has the row's id or its key. -/
def Db.adjustmentTaken (db : Db) (row : UsageAdjustmentRow) : Bool :=
  db.usageAdjustments.any (Db.adjustmentConflict row)

/-- A landed true-up row. -/
def Db.addAdjustment (db : Db) (row : UsageAdjustmentRow) : Db :=
  { db with usageAdjustments := db.usageAdjustments ++ [row] }

/-- What a true-up adds to an account's credit. -/
def UsageAdjustmentRow.creditShare (row : UsageAdjustmentRow) (a : String) : Int :=
  if row.accountId = a then if row.direction = .credit then row.appliedMicroUsd else 0 else 0

/-- What a true-up adds to an account's spend. -/
def UsageAdjustmentRow.spentShare (row : UsageAdjustmentRow) (a : String) : Int :=
  if row.accountId = a then if row.direction = .spend then row.appliedMicroUsd else 0 else 0

namespace Db

variable (db : Db)

/-- A true-up whose id or log is taken is ignored. -/
theorem insertAdjustment_of_taken {row : UsageAdjustmentRow} (h : db.adjustmentTaken row = true) :
    db.insertAdjustment row = (db, false) := by
  simp only [insertAdjustment, Table.insertOrIgnore_of_any h]

/-- A true-up whose id and log are free lands. -/
theorem insertAdjustment_of_free {row : UsageAdjustmentRow} (h : db.adjustmentTaken row = false) :
    db.insertAdjustment row = (db.addAdjustment row, true) := by
  simp only [insertAdjustment, Table.insertOrIgnore_of_not_any h, addAdjustment]

/-- A stored row keeps its own key taken. -/
theorem adjustmentTaken_of_mem {row stored : UsageAdjustmentRow}
    (h : stored ∈ db.usageAdjustments) (hkey : stored.idempotencyKey = row.idempotencyKey) :
    db.adjustmentTaken row = true := by
  refine List.any_eq_true.mpr ⟨stored, h, ?_⟩
  simp [adjustmentConflict, hkey]

/-- A row is free when its id and its key are. -/
theorem adjustmentTaken_eq_false {row : UsageAdjustmentRow}
    (hid : ∀ stored ∈ db.usageAdjustments, stored.id ≠ row.id)
    (hkey : ∀ stored ∈ db.usageAdjustments, stored.idempotencyKey ≠ row.idempotencyKey) :
    db.adjustmentTaken row = false := by
  refine List.any_eq_false.mpr (fun stored hstored => ?_)
  simp [adjustmentConflict, hid stored hstored, hkey stored hstored]

/-! ## The audit row -/

/-- The audit row touches no account. -/
@[simp] theorem addAdjustment_accounts (row : UsageAdjustmentRow) :
    (db.addAdjustment row).accounts = db.accounts := rfl

/-- The audit row is no usage row. -/
@[simp] theorem addAdjustment_usageEvents (row : UsageAdjustmentRow) :
    (db.addAdjustment row).usageEvents = db.usageEvents := rfl

/-- The audit row is the last one of its table. -/
@[simp] theorem addAdjustment_usageAdjustments (row : UsageAdjustmentRow) :
    (db.addAdjustment row).usageAdjustments = db.usageAdjustments ++ [row] := rfl

/-- The audit row moves no watermark. -/
@[simp] theorem addAdjustment_reconcileState (row : UsageAdjustmentRow) :
    (db.addAdjustment row).reconcileState = db.reconcileState := rfl

/-- The audit row credits nothing. -/
@[simp] theorem addAdjustment_credit (row : UsageAdjustmentRow) (a : String) :
    (db.addAdjustment row).credit a = db.credit a := rfl

/-- The audit row spends nothing. -/
@[simp] theorem addAdjustment_spent (row : UsageAdjustmentRow) (a : String) :
    (db.addAdjustment row).spent a = db.spent a := rfl

/-- The audit row grants nothing. -/
@[simp] theorem addAdjustment_granted (row : UsageAdjustmentRow) (a : String) :
    (db.addAdjustment row).granted a = db.granted a := rfl

/-- The audit row takes no grant's id and no grant's key. -/
@[simp] theorem addAdjustment_grantTaken (row : UsageAdjustmentRow) (grant : CreditGrantRow) :
    (db.addAdjustment row).grantTaken grant = db.grantTaken grant := rfl

/-- The grant of a true-up is the account's own. -/
@[simp] theorem grant_accountId (row : UsageAdjustmentRow) :
    row.grant.accountId = row.accountId := rfl

/-- And it is worth what the true-up applies. -/
@[simp] theorem grant_microUsd (row : UsageAdjustmentRow) :
    row.grant.microUsd = row.appliedMicroUsd := rfl

/-! ## The money batch -/

/-- The money of a true-up is no usage. -/
@[simp] theorem moveMoney_usageEvents (row : UsageAdjustmentRow) :
    (db.moveMoney row).usageEvents = db.usageEvents := by
  -- up or down, the batch writes accounts, periods and grants only
  cases hd : row.direction <;> simp only [moveMoney, hd] <;> rfl

/-- The money of a true-up is booked after its row. -/
@[simp] theorem moveMoney_usageAdjustments (row : UsageAdjustmentRow) :
    (db.moveMoney row).usageAdjustments = db.usageAdjustments := by
  cases hd : row.direction <;> simp only [moveMoney, hd] <;> rfl

/-- The money of a true-up moves no watermark. -/
@[simp] theorem moveMoney_reconcileState (row : UsageAdjustmentRow) :
    (db.moveMoney row).reconcileState = db.reconcileState := by
  cases hd : row.direction <;> simp only [moveMoney, hd] <;> rfl

/-- The money of a true-up creates no account. -/
@[simp] theorem moveMoney_isSome (row : UsageAdjustmentRow) (a : String) :
    ((db.moveMoney row).accounts a).isSome = (db.accounts a).isSome := by
  cases hd : row.direction <;> simp [moveMoney, hd]

/-- The trail of a grant is not its credit. -/
@[simp] theorem credit_insertGrant (row : CreditGrantRow) (a : String) :
    (db.insertGrant row).1.credit a = db.credit a := rfl

/-- The credit of each account moves by the row's credit share of it. -/
theorem credit_moveMoney (row : UsageAdjustmentRow) (a : String)
    (hsome : (db.accounts row.accountId).isSome) :
    (db.moveMoney row).credit a = db.credit a + row.creditShare a := by
  cases hd : row.direction with
  -- upward: the batch does not touch the credit
  | spend => simp [db.moveMoney_spend hd, UsageAdjustmentRow.creditShare, hd]
  -- downward: the grant is a trail, the account's update adds the credit
  | credit =>
    rw [db.moveMoney_credit hd, credit_upsertPeriod,
      credit_addCredit _ row.accountId a _ (by simpa using hsome), credit_insertGrant]
    simp [UsageAdjustmentRow.creditShare, hd]

/-- And the spend by the row's spent share. -/
theorem spent_moveMoney (row : UsageAdjustmentRow) (a : String)
    (hsome : (db.accounts row.accountId).isSome) :
    (db.moveMoney row).spent a = db.spent a + row.spentShare a :=
  congrFun (db.counter_moveMoney row hsome) (.spent a)

/-- A true-up that lands changes the store. -/
theorem landed_ne (row : UsageAdjustmentRow) : (db.addAdjustment row).moveMoney row ≠ db := by
  intro heq
  -- the landed store has one audit row more
  have hlength := congrArg (fun db : Db => db.usageAdjustments.length) heq
  simp at hlength

end Db

/-! ## A complete call -/

variable {db : Db} {row : UsageAdjustmentRow}

/-- A complete call for a taken log applies nothing. -/
theorem run_applyUsageAdjustment_taken (h : db.adjustmentTaken row = true) :
    (applyUsageAdjustment row).run db = (false, db) := by
  simp [applyUsageAdjustment, exec, db.insertAdjustment_of_taken h]

/-- A complete call for a free log leaves the row and its money. -/
theorem run_applyUsageAdjustment_free (h : db.adjustmentTaken row = false) :
    (applyUsageAdjustment row).run db = (true, (db.addAdjustment row).moveMoney row) := by
  simp [applyUsageAdjustment, exec, db.insertAdjustment_of_free h]

end ControlPlane
