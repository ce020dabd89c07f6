import ControlPlane.Spec.LedgerCounters

/-!
# Credit grants

`grantCredit` inserts its grant row under the caller's key, advances the account
only when the row landed, and reads the account back: two or three statements.

## Key results

- `insertGrant_cases`: a grant lands exactly when no stored row conflicts with it
- `runFor_grantCredit_landed` / `runFor_grantCredit_ignored`: the store after any
  number of statements of a call
-/

namespace ControlPlane

open Script

/-- Some stored grant has the row's id or its key. -/
def Db.grantTaken (db : Db) (row : CreditGrantRow) : Bool :=
  db.creditGrants.any (Db.grantConflict row)

/-- The sum of an account's grants. -/
def Db.granted (db : Db) (accountId : String) : Int :=
  Table.sumWhere (fun grant => grant.accountId == accountId) (·.microUsd) db.creditGrants

/-- A landed grant row. -/
def Db.addGrant (db : Db) (row : CreditGrantRow) : Db :=
  { db with creditGrants := db.creditGrants ++ [row] }

namespace Db

variable (db : Db)

theorem insertGrant_of_taken {row : CreditGrantRow} (h : db.grantTaken row = true) :
    db.insertGrant row = (db, false) := by
  simp only [insertGrant, Table.insertOrIgnore_of_any h]

theorem insertGrant_of_free {row : CreditGrantRow} (h : db.grantTaken row = false) :
    db.insertGrant row = (db.addGrant row, true) := by
  simp only [insertGrant, Table.insertOrIgnore_of_not_any h, addGrant]

/-- A grant lands exactly when its id and its key are free. -/
theorem insertGrant_cases (row : CreditGrantRow) :
    (db.grantTaken row = true ∧ db.insertGrant row = (db, false)) ∨
    (db.grantTaken row = false ∧ db.insertGrant row = (db.addGrant row, true)) := by
  cases h : db.grantTaken row with
  | true => exact .inl ⟨rfl, db.insertGrant_of_taken h⟩
  | false => exact .inr ⟨rfl, db.insertGrant_of_free h⟩

@[simp] theorem credit_addGrant (row : CreditGrantRow) (a : String) :
    (db.addGrant row).credit a = db.credit a := rfl

@[simp] theorem addGrant_accounts (row : CreditGrantRow) :
    (db.addGrant row).accounts = db.accounts := rfl

@[simp] theorem granted_updateAccount (a b : String) (f : AccountRow → AccountRow) :
    (db.updateAccount a f).granted b = db.granted b := rfl

@[simp] theorem granted_upsertPeriod (a k b : String) (f : PeriodRow → PeriodRow) :
    (db.upsertPeriod a k f).granted b = db.granted b := rfl

theorem granted_addGrant (row : CreditGrantRow) (a : String) :
    (db.addGrant row).granted a =
      db.granted a + (if row.accountId = a then row.microUsd else 0) := by
  simp [granted, addGrant]

/-- A stored row keeps its own key taken. -/
theorem grantTaken_of_mem {row stored : CreditGrantRow} (h : stored ∈ db.creditGrants)
    (hkey : stored.idempotencyKey = row.idempotencyKey) : db.grantTaken row = true := by
  refine List.any_eq_true.mpr ⟨stored, h, ?_⟩
  simp [grantConflict, hkey]

end Db

/-! ## A call cut anywhere -/

variable {db : Db} {args : GrantCreditArgs}

/-- A call whose key or id is taken changes nothing, however far it gets. -/
theorem runFor_grantCredit_ignored (h : db.grantTaken args.row = true) (n : Nat) :
    (runFor n (grantCredit args) db).2 = db := by
  match n with
  | 0 => simp
  | 1 => simp [grantCredit, exec, db.insertGrant_of_taken h]
  | n + 2 => simp [grantCredit, exec, getAccount, Script.read, db.insertGrant_of_taken h]

/-- What a call with a free key leaves behind: nothing, the grant row alone, or
    the row and the money. -/
theorem runFor_grantCredit_landed (h : db.grantTaken args.row = false) (n : Nat) :
    (runFor n (grantCredit args) db).2 =
      match n with
      | 0 => db
      | 1 => db.addGrant args.row
      | _ => (db.addGrant args.row).updateAccount args.accountId (.addCredit args.microUsd) := by
  match n with
  | 0 => simp
  | 1 => simp [grantCredit, exec, db.insertGrant_of_free h]
  | 2 => simp [grantCredit, exec, db.insertGrant_of_free h]
  | n + 3 => simp [grantCredit, exec, getAccount, Script.read, db.insertGrant_of_free h]

/-- A call that returned executed two statements at least. -/
theorem two_le_of_grantCredit_done {n : Nat} {result : GrantCreditResult}
    (h : (runFor n (grantCredit args) db).1 = .done result) : 2 ≤ n := by
  match n with
  | 0 => simp [grantCredit, exec] at h
  | 1 =>
    rcases db.insertGrant_cases args.row with ⟨-, hins⟩ | ⟨-, hins⟩ <;>
      simp [grantCredit, exec, getAccount, Script.read, hins] at h
  | n + 2 => omega

/-! ## A complete call -/

theorem run_grantCredit_ignored (h : db.grantTaken args.row = true) :
    (grantCredit args).run db = (⟨false, db.credit args.accountId⟩, db) := by
  simp [grantCredit, exec, getAccount, Script.read, db.insertGrant_of_taken h, Db.credit]

theorem run_grantCredit_landed (h : db.grantTaken args.row = false) :
    ((grantCredit args).run db).1.applied = true ∧
    ((grantCredit args).run db).2 =
      (db.addGrant args.row).updateAccount args.accountId (.addCredit args.microUsd) := by
  simp [grantCredit, exec, getAccount, Script.read, db.insertGrant_of_free h]

end ControlPlane
