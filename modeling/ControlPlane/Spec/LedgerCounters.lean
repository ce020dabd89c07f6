import ControlPlane.Model.Doors

/-!
# Counters and the rows they summarise

The money path keeps rolled-up counters beside its audit tables. `Db.counter`
reads a counter, `Db.rowSum` sums the stored rows it is supposed to summarise,
and the lemmas say how each statement moves the two.

## Key results

- `counter_upsertPeriod_event` / `counter_updateAccount_spent`: what the writes
  of `recordUsage` add to the counters
- `rowSum_insertEvent` / `rowSum_insertAdjustment`: what a landed row adds to
  the sums
-/

namespace ControlPlane

/-- The counters that summarise ledger rows and true-ups: six columns of
    `usage_periods` by account and period, and `accounts.spent_micro_usd`. -/
inductive Counter where
  | microUsd (accountId periodKey : String)
  | requests (accountId periodKey : String)
  | unmeteredRequests (accountId periodKey : String)
  | allowanceSpent (accountId periodKey : String)
  | adjustSpend (accountId periodKey : String)
  | adjustCredit (accountId periodKey : String)
  | spent (accountId : String)
deriving Repr, DecidableEq

namespace Db

/-- A period column, zero when the account has no row for the period. -/
def periodColumn (db : Db) (accountId periodKey : String) (f : PeriodRow → Int) : Int :=
  ((db.usagePeriods accountId periodKey).map f).getD 0

/-- `accounts.spent_micro_usd`, zero without an account. -/
def spent (db : Db) (accountId : String) : Int :=
  ((db.accounts accountId).map (·.spentMicroUsd)).getD 0

/-- `accounts.credit_micro_usd`, zero without an account. -/
def credit (db : Db) (accountId : String) : Int :=
  ((db.accounts accountId).map (·.creditMicroUsd)).getD 0

/-- `usage_periods.allowance_spent_micro_usd`. -/
def allowanceSpent (db : Db) (accountId periodKey : String) : Int :=
  db.periodColumn accountId periodKey (·.allowanceSpentMicroUsd)

/-- The value of a counter. -/
def counter (db : Db) : Counter → Int
  | .microUsd a k => db.periodColumn a k (·.microUsd)
  | .requests a k => db.periodColumn a k (·.requests)
  | .unmeteredRequests a k => db.periodColumn a k (·.unmeteredRequests)
  | .allowanceSpent a k => db.allowanceSpent a k
  | .adjustSpend a k => db.periodColumn a k (·.adjustSpendMicroUsd)
  | .adjustCredit a k => db.periodColumn a k (·.adjustCreditMicroUsd)
  | .spent a => db.spent a

end Db

/-- The row belongs to the account and the period. -/
def UsageEventRow.inPeriod (row : UsageEventRow) (accountId periodKey : String) : Bool :=
  row.accountId == accountId && row.periodKey == periodKey

/-- The true-up belongs to the account and the period. -/
def UsageAdjustmentRow.inPeriod (row : UsageAdjustmentRow) (accountId periodKey : String) : Bool :=
  row.accountId == accountId && row.periodKey == periodKey

namespace Db

/-- The sum over the stored rows that a counter summarises. -/
def rowSum (db : Db) : Counter → Int
  | .microUsd a k =>
    Table.sumWhere (fun row => row.inPeriod a k && row.metered) (·.microUsd) db.usageEvents
  | .requests a k => Table.sumWhere (·.inPeriod a k) (fun _ => 1) db.usageEvents
  | .unmeteredRequests a k =>
    Table.sumWhere (fun row => row.inPeriod a k && !row.metered) (fun _ => 1) db.usageEvents
  | .allowanceSpent a k =>
    Table.sumWhere (fun row => row.inPeriod a k && row.metered) (·.fromAllowanceMicroUsd)
      db.usageEvents
  | .adjustSpend a k =>
    Table.sumWhere (fun row => row.inPeriod a k && row.direction = .spend) (·.appliedMicroUsd)
      db.usageAdjustments
  | .adjustCredit a k =>
    Table.sumWhere (fun row => row.inPeriod a k && row.direction = .credit) (·.appliedMicroUsd)
      db.usageAdjustments
  | .spent a =>
    Table.sumWhere (fun row => row.accountId == a && row.metered) (·.fromCreditMicroUsd)
      db.usageEvents +
    Table.sumWhere (fun row => row.accountId == a && row.direction = .spend) (·.appliedMicroUsd)
      db.usageAdjustments

/-- Every counter is the sum of its rows. -/
def Balanced (db : Db) : Prop :=
  ∀ counter, db.counter counter = db.rowSum counter

/-- An empty database has no counters and no rows to sum. -/
theorem balanced_empty : Db.empty.Balanced := by
  intro counter
  cases counter <;> rfl

/-- A database that holds one account on one plan and nothing else. -/
def withAccount (plan : PlanRow) (account : AccountRow) : Db :=
  { empty with
    plans := fun p => if p = plan.id then some plan else none
    accounts := fun a => if a = account.id then some account else none }

/-- An account that has spent nothing yet is balanced. -/
theorem balanced_withAccount {plan : PlanRow} {account : AccountRow}
    (h : account.spentMicroUsd = 0) : (withAccount plan account).Balanced := by
  intro counter
  cases counter with
  | spent a =>
    by_cases ha : a = account.id <;>
      simp [Db.counter, Db.spent, Db.rowSum, withAccount, empty, ha, h]
  | _ => rfl

/-! ## Frames -/

section Frames

variable (db : Db) (a k : String)

/-- An update of an account writes no period. -/
@[simp] theorem updateAccount_usagePeriods (f : AccountRow → AccountRow) :
    (db.updateAccount a f).usagePeriods = db.usagePeriods := rfl

/-- An update of an account writes no usage row. -/
@[simp] theorem updateAccount_usageEvents (f : AccountRow → AccountRow) :
    (db.updateAccount a f).usageEvents = db.usageEvents := rfl

/-- An update of an account writes no adjustment. -/
@[simp] theorem updateAccount_usageAdjustments (f : AccountRow → AccountRow) :
    (db.updateAccount a f).usageAdjustments = db.usageAdjustments := rfl

/-- An update of an account writes no grant. -/
@[simp] theorem updateAccount_creditGrants (f : AccountRow → AccountRow) :
    (db.updateAccount a f).creditGrants = db.creditGrants := rfl

/-- An update of an account writes no plan. -/
@[simp] theorem updateAccount_plans (f : AccountRow → AccountRow) :
    (db.updateAccount a f).plans = db.plans := rfl

/-- An update of an account leaves the watermarks alone. -/
@[simp] theorem updateAccount_reconcileState (f : AccountRow → AccountRow) :
    (db.updateAccount a f).reconcileState = db.reconcileState := rfl

/-- An update neither creates an account nor removes one. -/
@[simp] theorem updateAccount_isSome (f : AccountRow → AccountRow) (b : String) :
    ((db.updateAccount a f).accounts b).isSome = (db.accounts b).isSome := by
  simp only [updateAccount]
  split <;> simp

/-- An upsert of a period writes no account. -/
@[simp] theorem upsertPeriod_accounts (f : PeriodRow → PeriodRow) :
    (db.upsertPeriod a k f).accounts = db.accounts := rfl

/-- An upsert of a period writes no usage row. -/
@[simp] theorem upsertPeriod_usageEvents (f : PeriodRow → PeriodRow) :
    (db.upsertPeriod a k f).usageEvents = db.usageEvents := rfl

/-- An upsert of a period writes no adjustment. -/
@[simp] theorem upsertPeriod_usageAdjustments (f : PeriodRow → PeriodRow) :
    (db.upsertPeriod a k f).usageAdjustments = db.usageAdjustments := rfl

/-- An upsert of a period writes no grant. -/
@[simp] theorem upsertPeriod_creditGrants (f : PeriodRow → PeriodRow) :
    (db.upsertPeriod a k f).creditGrants = db.creditGrants := rfl

/-- An upsert of a period writes no plan. -/
@[simp] theorem upsertPeriod_plans (f : PeriodRow → PeriodRow) :
    (db.upsertPeriod a k f).plans = db.plans := rfl

/-- An upsert of a period leaves the watermarks alone. -/
@[simp] theorem upsertPeriod_reconcileState (f : PeriodRow → PeriodRow) :
    (db.upsertPeriod a k f).reconcileState = db.reconcileState := rfl

end Frames

/-! ## Reading after a write -/

/-- What an account has spent is in its own row, not in its periods. -/
@[simp] theorem spent_upsertPeriod (db : Db) (a k b : String) (f : PeriodRow → PeriodRow) :
    (db.upsertPeriod a k f).spent b = db.spent b := rfl

/-- Nor is its credit. -/
@[simp] theorem credit_upsertPeriod (db : Db) (a k b : String) (f : PeriodRow → PeriodRow) :
    (db.upsertPeriod a k f).credit b = db.credit b := rfl

/-- The columns of a period are not in the account. -/
@[simp] theorem periodColumn_updateAccount (db : Db) (a b k : String)
    (f : AccountRow → AccountRow) (g : PeriodRow → Int) :
    (db.updateAccount a f).periodColumn b k g = db.periodColumn b k g := rfl

/-- An update of an account uses no allowance. -/
@[simp] theorem allowanceSpent_updateAccount (db : Db) (a b k : String)
    (f : AccountRow → AccountRow) :
    (db.updateAccount a f).allowanceSpent b k = db.allowanceSpent b k := rfl

/-- A column that an upsert raises by `n`, and that is zero on a fresh row. -/
theorem periodColumn_upsertPeriod (db : Db) (a k b l : String) (f : PeriodRow → PeriodRow)
    (g : PeriodRow → Int) (n : Int) (hg : g ⟨a, k, 0, 0, 0, 0, 0, 0⟩ = 0)
    (h : ∀ row, g (f row) = g row + n) :
    (db.upsertPeriod a k f).periodColumn b l g =
      db.periodColumn b l g + (if a = b ∧ k = l then n else 0) := by
  simp only [periodColumn, upsertPeriod]
  by_cases hk : a = b ∧ k = l
  · obtain ⟨rfl, rfl⟩ := hk
    -- the period is new, or it has a row
    cases hp : db.usagePeriods a k with
    | none => simp [h, hg]
    | some row => simp [h]
  · have hk' : ¬(b = a ∧ l = k) := fun hbl => hk ⟨hbl.1.symm, hbl.2.symm⟩
    simp [hk, hk']

/-- Spend is added to the one account it is booked on. -/
theorem spent_addSpent (db : Db) (a b : String) (n : Int) (ha : (db.accounts a).isSome) :
    (db.updateAccount a (.addSpent n)).spent b = db.spent b + (if a = b then n else 0) := by
  simp only [spent, updateAccount]
  by_cases hb : a = b
  · subst hb
    -- the account exists, so its row is updated
    obtain ⟨row, hrow⟩ := Option.isSome_iff_exists.mp ha
    simp [hrow, AccountRow.addSpent]
  · simp [hb, Ne.symm hb]

/-- Credit is added to the one account it is granted to. -/
theorem credit_addCredit (db : Db) (a b : String) (n : Int) (ha : (db.accounts a).isSome) :
    (db.updateAccount a (.addCredit n)).credit b = db.credit b + (if a = b then n else 0) := by
  simp only [credit, updateAccount]
  by_cases hb : a = b
  · subst hb
    obtain ⟨row, hrow⟩ := Option.isSome_iff_exists.mp ha
    simp [hrow, AccountRow.addCredit]
  · simp [hb, Ne.symm hb]

/-- A grant is no spend. -/
@[simp] theorem spent_addCredit (db : Db) (a b : String) (n : Int) :
    (db.updateAccount a (.addCredit n)).spent b = db.spent b := by
  simp only [spent, updateAccount]
  split
  · cases db.accounts b <;> simp [AccountRow.addCredit]
  · rfl

/-- Spend leaves the credit as it was granted. -/
@[simp] theorem credit_addSpent (db : Db) (a b : String) (n : Int) :
    (db.updateAccount a (.addSpent n)).credit b = db.credit b := by
  simp only [credit, updateAccount]
  split
  · cases db.accounts b <;> simp [AccountRow.addSpent]
  · rfl

end Db

/-! ## What one event and one true-up stand for -/

/-- What the period upsert of `recordUsage` adds to each counter. -/
def UsageEvent.periodShare (event : UsageEvent) : Counter → Int
  | .microUsd a k =>
    if event.accountId = a ∧ event.periodKey = k then
      if event.metered then event.microUsd else 0
    else 0
  | .requests a k => if event.accountId = a ∧ event.periodKey = k then 1 else 0
  | .unmeteredRequests a k =>
    if event.accountId = a ∧ event.periodKey = k then if event.metered then 0 else 1 else 0
  | .allowanceSpent a k =>
    if event.accountId = a ∧ event.periodKey = k then event.fromAllowance else 0
  | _ => 0

/-- What the account update of `recordUsage` adds to each counter. -/
def UsageEvent.spentShare (event : UsageEvent) : Counter → Int
  | .spent a => if event.accountId = a then event.fromCredit else 0
  | _ => 0

/-- What the money batch of a true-up adds to each counter. -/
def UsageAdjustmentRow.share (row : UsageAdjustmentRow) : Counter → Int
  | .adjustSpend a k =>
    if row.accountId = a ∧ row.periodKey = k then
      if row.direction = .spend then row.appliedMicroUsd else 0
    else 0
  | .adjustCredit a k =>
    if row.accountId = a ∧ row.periodKey = k then
      if row.direction = .credit then row.appliedMicroUsd else 0
    else 0
  | .spent a =>
    if row.accountId = a then if row.direction = .spend then row.appliedMicroUsd else 0 else 0
  | _ => 0

namespace Db

variable (db : Db)

/-- The counters of a database are not the rows they count. -/
theorem counter_insertEvent (row : UsageEventRow) :
    (db.insertEvent row).1.counter = db.counter := by
  funext counter
  cases counter <;> rfl

/-- The audit row of a true-up moves no counter by itself. -/
theorem counter_insertAdjustment (row : UsageAdjustmentRow) :
    (db.insertAdjustment row).1.counter = db.counter := by
  funext counter
  cases counter <;> rfl

/-- A period advances by what its event has in it. -/
theorem counter_upsertPeriod_event (event : UsageEvent) :
    (db.upsertPeriod event.accountId event.periodKey event.advancePeriod).counter =
      db.counter + event.periodShare := by
  funext counter
  cases counter with
  | spent a => simp [Db.counter, UsageEvent.periodShare]
  | microUsd a k =>
    exact periodColumn_upsertPeriod _ _ _ _ _ _ _ _ rfl (fun _ => rfl)
  | requests a k =>
    exact periodColumn_upsertPeriod _ _ _ _ _ _ _ _ rfl (fun _ => rfl)
  | unmeteredRequests a k =>
    exact periodColumn_upsertPeriod _ _ _ _ _ _ _ _ rfl (fun _ => rfl)
  | allowanceSpent a k =>
    exact periodColumn_upsertPeriod _ _ _ _ _ _ _ _ rfl (fun _ => rfl)
  -- a call never touches the columns of the adjustments
  | adjustSpend a k =>
    simpa [Db.counter, UsageEvent.periodShare] using periodColumn_upsertPeriod db event.accountId
      event.periodKey a k event.advancePeriod (·.adjustSpendMicroUsd) 0 rfl
      (fun row => by simp [UsageEvent.advancePeriod])
  | adjustCredit a k =>
    simpa [Db.counter, UsageEvent.periodShare] using periodColumn_upsertPeriod db event.accountId
      event.periodKey a k event.advancePeriod (·.adjustCreditMicroUsd) 0 rfl
      (fun row => by simp [UsageEvent.advancePeriod])

/-- The account advances by what its event takes from credit. -/
theorem counter_updateAccount_spent (event : UsageEvent)
    (ha : (db.accounts event.accountId).isSome) :
    (db.updateAccount event.accountId (.addSpent event.fromCredit)).counter =
      db.counter + event.spentShare := by
  funext counter
  cases counter with
  | spent a => exact spent_addSpent _ _ _ _ ha
  | _ => simp [Db.counter, UsageEvent.spentShare]

/-- The period half of a true-up's money batch. -/
theorem periodColumn_advancePeriod (row : UsageAdjustmentRow) (a k : String) :
    let db' := db.upsertPeriod row.accountId row.periodKey row.advancePeriod
    db'.periodColumn a k (·.adjustSpendMicroUsd) =
      db.periodColumn a k (·.adjustSpendMicroUsd) + row.share (.adjustSpend a k) ∧
    db'.periodColumn a k (·.adjustCreditMicroUsd) =
      db.periodColumn a k (·.adjustCreditMicroUsd) + row.share (.adjustCredit a k) :=
  ⟨periodColumn_upsertPeriod _ _ _ _ _ _ _ _ rfl (fun _ => rfl),
    periodColumn_upsertPeriod _ _ _ _ _ _ _ _ rfl (fun _ => rfl)⟩

/-- A true-up leaves the other four period columns. -/
theorem periodColumn_advancePeriod_other (row : UsageAdjustmentRow) (a k : String)
    (g : PeriodRow → Int) (hg : g ⟨row.accountId, row.periodKey, 0, 0, 0, 0, 0, 0⟩ = 0)
    (h : ∀ period, g (row.advancePeriod period) = g period) :
    (db.upsertPeriod row.accountId row.periodKey row.advancePeriod).periodColumn a k g =
      db.periodColumn a k g := by
  simpa using periodColumn_upsertPeriod db row.accountId row.periodKey a k row.advancePeriod g 0
    hg (fun period => by simp [h])

/-- The trail of a grant moves no counter. -/
@[simp] theorem counter_insertGrant (row : CreditGrantRow) :
    (db.insertGrant row).1.counter = db.counter := by
  funext counter
  cases counter <;> rfl

/-- The trail of a grant touches no account. -/
@[simp] theorem insertGrant_accounts (row : CreditGrantRow) :
    (db.insertGrant row).1.accounts = db.accounts := rfl

/-- The trail of a grant touches no period. -/
@[simp] theorem periodColumn_insertGrant (row : CreditGrantRow) (a k : String)
    (g : PeriodRow → Int) :
    (db.insertGrant row).1.periodColumn a k g = db.periodColumn a k g := rfl

/-- The trail of a grant spends nothing. -/
@[simp] theorem spent_insertGrant (row : CreditGrantRow) (a : String) :
    (db.insertGrant row).1.spent a = db.spent a := rfl

/-- An upward true-up spends, and advances its period. -/
theorem moveMoney_spend {row : UsageAdjustmentRow} (h : row.direction = .spend) :
    db.moveMoney row =
      (db.updateAccount row.accountId (.addSpent row.appliedMicroUsd)).upsertPeriod
        row.accountId row.periodKey row.advancePeriod := by
  simp only [moveMoney, h]

/-- A downward true-up leaves a grant, credits the account and takes the period back. -/
theorem moveMoney_credit {row : UsageAdjustmentRow} (h : row.direction = .credit) :
    db.moveMoney row =
      ((db.insertGrant row.grant).1.updateAccount row.accountId
        (.addCredit row.appliedMicroUsd)).upsertPeriod row.accountId row.periodKey
        row.advancePeriod := by
  simp only [moveMoney, h]

/-- The period half of the batch, on every counter but the account's own. -/
theorem counter_advancePeriod (row : UsageAdjustmentRow) {counter : Counter}
    (h : ∀ a, counter ≠ .spent a) :
    (db.upsertPeriod row.accountId row.periodKey row.advancePeriod).counter counter =
      db.counter counter + row.share counter := by
  cases counter with
  | spent a => exact absurd rfl (h a)
  | adjustSpend a k => exact (periodColumn_advancePeriod _ row a k).1
  | adjustCredit a k => exact (periodColumn_advancePeriod _ row a k).2
  -- the other columns of the period are not the true-up's
  | _ =>
    exact (periodColumn_advancePeriod_other _ row _ _ _ rfl (fun _ => rfl)).trans
      (add_zero _).symm

/-- Both move the counters by the share of their row. -/
theorem counter_moveMoney (row : UsageAdjustmentRow)
    (ha : (db.accounts row.accountId).isSome) :
    (db.moveMoney row).counter = db.counter + row.share := by
  funext counter
  cases hd : row.direction with
  | spend =>
    rw [db.moveMoney_spend hd]
    -- the account's own column moves in one update, the period's in the other
    cases counter with
    | spent a =>
      simpa [Db.counter, UsageAdjustmentRow.share, hd] using spent_addSpent db _ a _ ha
    | _ => exact counter_advancePeriod _ row nofun
  | credit =>
    rw [db.moveMoney_credit hd]
    cases counter with
    | spent a => simp [Db.counter, UsageAdjustmentRow.share, hd]
    | _ => exact counter_advancePeriod _ row nofun

/-! ## What a landed row adds to the sums -/

/-- A usage row is ignored, or appended. -/
theorem insertEvent_cases (row : UsageEventRow) :
    (db.insertEvent row = (db, false)) ∨
    (db.insertEvent row = ({ db with usageEvents := db.usageEvents ++ [row] }, true)) := by
  rcases Table.insertOrIgnore_cases eventConflict row db.usageEvents with ⟨h, -⟩ | ⟨h, -⟩
  · exact .inl (by simp [insertEvent, h])
  · exact .inr (by simp [insertEvent, h])

/-- A true-up is ignored, or appended behind rows that do not conflict with it. -/
theorem insertAdjustment_cases (row : UsageAdjustmentRow) :
    (db.insertAdjustment row = (db, false)) ∨
    (db.insertAdjustment row =
      ({ db with usageAdjustments := db.usageAdjustments ++ [row] }, true) ∧
      ∀ r ∈ db.usageAdjustments, adjustmentConflict row r = false) := by
  rcases Table.insertOrIgnore_cases adjustmentConflict row db.usageAdjustments with
    ⟨h, -⟩ | ⟨h, hfree⟩
  · exact .inl (by simp [insertAdjustment, h])
  · exact .inr ⟨by simp [insertAdjustment, h], hfree⟩

/-- A landed usage row adds its two shares to the sums. -/
theorem rowSum_insertEvent (event : UsageEvent) (createdAt : Int) :
    ({ db with usageEvents := db.usageEvents ++ [event.row createdAt] } : Db).rowSum =
      db.rowSum + (event.periodShare + event.spentShare) := by
  funext counter
  -- column by column, for a metered row and for one that is not
  cases counter <;> cases hm : event.metered <;>
    simp [Db.rowSum, UsageEvent.periodShare, UsageEvent.spentShare, UsageEventRow.inPeriod,
      UsageEvent.row, UsageEvent.fromAllowance, UsageEvent.fromCredit, hm, add_right_comm]

/-- A landed true-up adds its share to the sums. -/
theorem rowSum_insertAdjustment (row : UsageAdjustmentRow) :
    ({ db with usageAdjustments := db.usageAdjustments ++ [row] } : Db).rowSum =
      db.rowSum + row.share := by
  funext counter
  cases counter <;> cases hd : row.direction <;>
    simp [Db.rowSum, UsageAdjustmentRow.share, UsageAdjustmentRow.inPeriod, hd, add_assoc]

end Db

end ControlPlane
