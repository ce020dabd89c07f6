import ControlPlane.ForStd.Pool
import ControlPlane.Spec.LedgerCounters
import Mathlib.Algebra.BigOperators.Pi

/-!
# The counters never run ahead of the rows

`recordUsage` and `applyUsageAdjustment` write their audit row first and the
counters after it. Whatever the interleaving, and wherever a call dies, what is
missing from the counters is exactly what the calls in progress still owe, so a
counter is never above the rows it summarises, and meets them once every call
has come to its end.

## Key results

- `counters_owe`: counters plus the debt of all calls equal the rows
- `counters_le_rowSum` / `counters_eq_rowSum`: the two readings of it
- `counters_bounded`: no counter above its rows, and none below once every call is through
-/

namespace ControlPlane

open Script

/-! ## The calls -/

/-- A `recordUsage` or `applyUsageAdjustment` call with non-negative amounts on
    an account of `db₀`. -/
inductive LedgerCall (db₀ : Db) : Script Db Unit → Prop
  | recordUsage (event : UsageEvent) (createdAt : Int)
      (haccount : (db₀.accounts event.accountId).isSome)
      (hmicro : 0 ≤ event.microUsd) (hallowance : 0 ≤ event.fromAllowanceMicroUsd)
      (hcredit : 0 ≤ event.fromCreditMicroUsd) :
      LedgerCall db₀ (recordUsage event createdAt)
  | applyUsageAdjustment (row : UsageAdjustmentRow)
      (haccount : (db₀.accounts row.accountId).isSome) (happlied : 0 ≤ row.appliedMicroUsd) :
      LedgerCall db₀ (applyUsageAdjustment row >>= fun _ => pure ())

/-- Where a ledger call stands. -/
inductive LedgerPhase where
  | record (event : UsageEvent) (createdAt : Int)
  | counters (event : UsageEvent)
  | spent (event : UsageEvent)
  | adjust (row : UsageAdjustmentRow)
  | money (row : UsageAdjustmentRow)
  | finished

namespace LedgerPhase

/-- What is left to execute in a phase. -/
def script : LedgerPhase → Script Db Unit
  | .record event createdAt => recordUsage event createdAt
  | .counters event => advanceCounters event
  | .spent event => advanceSpent event
  | .adjust row => applyUsageAdjustment row >>= fun _ => pure ()
  | .money row => .stmt (fun db => db.moveMoney row) (fun _ => .done ())
  | .finished => .done ()

/-- What the phase still has to add to the counters. -/
def debt : LedgerPhase → Counter → Int
  | .counters event => event.periodShare + event.spentShare
  | .spent event => event.spentShare
  | .money row => row.share
  | _ => 0

/-- The amounts are non-negative and the account is one of `db₀`. -/
def Ok (db₀ : Db) : LedgerPhase → Prop
  | .record event _ | .counters event | .spent event =>
    (db₀.accounts event.accountId).isSome ∧ 0 ≤ event.microUsd ∧
      0 ≤ event.fromAllowanceMicroUsd ∧ 0 ≤ event.fromCreditMicroUsd
  | .adjust row | .money row => (db₀.accounts row.accountId).isSome ∧ 0 ≤ row.appliedMicroUsd
  | .finished => True

end LedgerPhase

/-! ## Shares of non-negative amounts -/

theorem UsageEvent.periodShare_nonneg {event : UsageEvent} (hmicro : 0 ≤ event.microUsd)
    (hallowance : 0 ≤ event.fromAllowanceMicroUsd) (counter : Counter) :
    0 ≤ event.periodShare counter := by
  cases counter <;> simp only [UsageEvent.periodShare, UsageEvent.fromAllowance] <;>
    repeat (first | omega | split)

theorem UsageEvent.spentShare_nonneg {event : UsageEvent} (hcredit : 0 ≤ event.fromCreditMicroUsd)
    (counter : Counter) : 0 ≤ event.spentShare counter := by
  cases counter <;> simp only [UsageEvent.spentShare, UsageEvent.fromCredit] <;>
    repeat (first | omega | split)

theorem UsageAdjustmentRow.share_nonneg {row : UsageAdjustmentRow} (h : 0 ≤ row.appliedMicroUsd)
    (counter : Counter) : 0 ≤ row.share counter := by
  cases counter <;> simp only [UsageAdjustmentRow.share] <;> repeat (first | omega | split)

theorem LedgerPhase.debt_nonneg {db₀ : Db} {phase : LedgerPhase} (h : phase.Ok db₀)
    (counter : Counter) : 0 ≤ phase.debt counter := by
  cases phase with
  | counters event =>
    obtain ⟨-, hmicro, hallowance, hcredit⟩ := h
    exact add_nonneg (event.periodShare_nonneg hmicro hallowance counter)
      (event.spentShare_nonneg hcredit counter)
  | spent event => exact event.spentShare_nonneg h.2.2.2 counter
  | money row => exact row.share_nonneg h.2 counter
  | _ => exact le_rfl

/-- An event that takes nothing from credit owes nothing to the account. -/
theorem UsageEvent.spentShare_eq_zero {event : UsageEvent}
    (hcredit : 0 ≤ event.fromCreditMicroUsd) (h : ¬(event.metered ∧ 0 < event.fromCredit)) :
    event.spentShare = 0 := by
  have hzero : event.fromCredit = 0 := by
    simp only [UsageEvent.fromCredit] at h ⊢
    split
    next hm => simp only [hm, if_true, true_and] at h; omega
    next => rfl
  funext counter
  cases counter <;> simp [UsageEvent.spentShare, hzero]

/-- A phase whose script is at its end owes nothing. -/
theorem LedgerPhase.debt_of_done {db₀ : Db} {phase : LedgerPhase} (h : phase.Ok db₀)
    (hdone : ∃ a, phase.script = .done a) : phase.debt = 0 := by
  obtain ⟨a, ha⟩ := hdone
  cases phase with
  | counters event => simp [script, advanceCounters, exec] at ha
  | money row => simp [script] at ha
  -- the update of the account is left out where there is nothing to book
  | spent event =>
    refine event.spentShare_eq_zero h.2.2.2 (fun hspend => ?_)
    simp [script, advanceSpent, exec, hspend] at ha
  | _ => rfl

/-! ## One statement -/

/-- The accounts of `db₀` are still there. -/
def Db.KeepsAccounts (db₀ db : Db) : Prop :=
  ∀ a, (db₀.accounts a).isSome → (db.accounts a).isSome

/-- What a statement of a phase may do: keep the accounts, and move between
    rows, counters and its own debt without loss. -/
def LedgerPhase.Moves (db₀ db db' : Db) (phase phase' : LedgerPhase) : Prop :=
  db₀.KeepsAccounts db' ∧ phase'.Ok db₀ ∧
    db'.counter + phase'.debt + db.rowSum = db.counter + phase.debt + db'.rowSum

theorem LedgerPhase.record_moves {db₀ db : Db} (event : UsageEvent) (createdAt : Int)
    (hI : db₀.KeepsAccounts db) (hok : (record event createdAt).Ok db₀) :
    ∃ phase', phase'.script = (if (db.insertEvent (event.row createdAt)).2
        then advanceCounters event else pure ()) ∧
      Moves db₀ db (db.insertEvent (event.row createdAt)).1 (record event createdAt) phase' := by
  rcases db.insertEvent_cases (event.row createdAt) with h | h
  -- ignored: the call is over and owes nothing
  · exact ⟨.finished, by simp [h, script], by rwa [h], trivial, by simp [h, debt]⟩
  -- landed: the call owes what the row has added to the sums
  · refine ⟨.counters event, by simp [h, script], by rwa [h], hok, ?_⟩
    have hcounter := db.counter_insertEvent (event.row createdAt)
    rw [h] at hcounter
    rw [h, hcounter, db.rowSum_insertEvent event createdAt]
    simp only [debt]
    abel

theorem LedgerPhase.adjust_moves {db₀ db : Db} (row : UsageAdjustmentRow)
    (hI : db₀.KeepsAccounts db) (hok : (adjust row).Ok db₀) :
    ∃ phase', phase'.script = (if (db.insertAdjustment row).2 then
        .stmt (fun db => db.moveMoney row) (fun _ => .done ()) else .done ()) ∧
      Moves db₀ db (db.insertAdjustment row).1 (adjust row) phase' := by
  rcases db.insertAdjustment_cases row with h | ⟨h, -⟩
  · exact ⟨.finished, by simp [h, script], by rwa [h], trivial, by simp [h, debt]⟩
  -- landed: the money batch is owed
  · refine ⟨.money row, by simp [h, script], by rwa [h], hok, ?_⟩
    have hcounter := db.counter_insertAdjustment row
    rw [h] at hcounter
    rw [h, hcounter, db.rowSum_insertAdjustment row]
    simp only [debt]
    abel

/-- The period upsert pays the period share. -/
theorem LedgerPhase.counters_moves {db₀ db : Db} (event : UsageEvent)
    (hI : db₀.KeepsAccounts db) (hok : (counters event).Ok db₀) :
    Moves db₀ db (db.upsertPeriod event.accountId event.periodKey event.advancePeriod)
      (counters event) (spent event) := by
  refine ⟨hI, hok, ?_⟩
  -- the sums are of the rows, which the upsert leaves
  have hrows : (db.upsertPeriod event.accountId event.periodKey event.advancePeriod).rowSum =
      db.rowSum := by
    funext counter
    cases counter <;> rfl
  rw [db.counter_upsertPeriod_event event, hrows]
  simp only [debt]
  abel

/-- The account update pays the spent share. -/
theorem LedgerPhase.spent_moves {db₀ db : Db} (event : UsageEvent)
    (hI : db₀.KeepsAccounts db) (hok : (spent event).Ok db₀) :
    Moves db₀ db (db.updateAccount event.accountId (.addSpent event.fromCredit))
      (spent event) finished := by
  refine ⟨fun a ha => by simpa using hI a ha, trivial, ?_⟩
  have hrows : (db.updateAccount event.accountId (.addSpent event.fromCredit)).rowSum =
      db.rowSum := by
    funext counter
    cases counter <;> rfl
  rw [db.counter_updateAccount_spent event (hI _ hok.1), hrows]
  simp only [debt, add_zero]

/-- The money batch pays the whole true-up. -/
theorem LedgerPhase.money_moves {db₀ db : Db} (row : UsageAdjustmentRow)
    (hI : db₀.KeepsAccounts db) (hok : (money row).Ok db₀) :
    Moves db₀ db (db.moveMoney row) (money row) finished := by
  refine ⟨fun a ha => ?_, trivial, ?_⟩
  · simp only [Db.moveMoney]
    split <;> simpa using hI a ha
  · have hrows : (db.moveMoney row).rowSum = db.rowSum := by
      funext counter
      simp only [Db.moveMoney]
      split <;> cases counter <;> rfl
    rw [db.counter_moveMoney row (hI _ hok.1), hrows]
    simp only [debt, add_zero]

/-- One statement of one call. -/
theorem LedgerPhase.advance {db₀ db : Db} {phase : LedgerPhase} {effect : Db → Db}
    {next : Db → Script Db Unit} (hI : db₀.KeepsAccounts db) (hok : phase.Ok db₀)
    (h : phase.script = .stmt effect next) :
    ∃ phase', phase'.script = next db ∧ Moves db₀ db (effect db) phase phase' := by
  cases phase with
  | record event createdAt =>
    cases h
    exact record_moves event createdAt hI hok
  | counters event =>
    cases h
    exact ⟨.spent event, rfl, counters_moves event hI hok⟩
  | spent event =>
    simp only [script, advanceSpent] at h
    -- a charge with a share of the credit has one statement more
    split at h
    · cases h
      exact ⟨.finished, rfl, spent_moves event hI hok⟩
    · cases h
  | adjust row =>
    cases h
    obtain ⟨phase', hscript, hmoves⟩ := adjust_moves row hI hok
    refine ⟨phase', hscript.trans ?_, hmoves⟩
    dsimp only [done_bind]
    cases (db.insertAdjustment row).2 <;> rfl
  | money row =>
    cases h
    exact ⟨.finished, rfl, money_moves row hI hok⟩
  | finished => cases h

/-! ## Every run -/

/-- In every reachable pool the counters and the debt of the calls add up to
    the rows. -/
theorem counters_owe {db₀ : Db} (h₀ : db₀.Balanced) {c : Pool Db Unit}
    (h : Pool.Reach (LedgerCall db₀) ⟨db₀, []⟩ c) :
    ∃ phases : List LedgerPhase, c.threads = phases.map LedgerPhase.script ∧
      (∀ phase ∈ phases, phase.Ok db₀) ∧
      c.store.counter + (phases.map LedgerPhase.debt).sum = c.store.rowSum := by
  have hstart : ∀ p, LedgerCall db₀ p → ∃ phase : LedgerPhase, phase.script = p ∧
      phase.Ok db₀ ∧ phase.debt = 0 := by
    rintro p (⟨event, createdAt, haccount, hmicro, hallowance, hcredit⟩ |
      ⟨row, haccount, happlied⟩)
    · exact ⟨.record event createdAt, rfl, ⟨haccount, hmicro, hallowance, hcredit⟩, rfl⟩
    · exact ⟨.adjust row, rfl, ⟨haccount, happlied⟩, rfl⟩
  -- counters and debts together move with the rows at every statement
  obtain ⟨phases, hthreads, hok, -, hcons⟩ := Pool.conserved h (funext h₀)
    (show db₀.KeepsAccounts db₀ from fun _ => id) hstart
    (fun db phase effect next hI hok hscript => by
      obtain ⟨phase', hnext, hkeeps, hok', hbal⟩ := LedgerPhase.advance hI hok hscript
      exact ⟨hkeeps, phase', hnext, hok', hbal⟩)
  exact ⟨phases, hthreads, hok, hcons⟩

/-- No counter is ever above its rows. -/
theorem counters_le_rowSum {db₀ : Db} (h₀ : db₀.Balanced) {c : Pool Db Unit}
    (h : Pool.Reach (LedgerCall db₀) ⟨db₀, []⟩ c) (counter : Counter) :
    c.store.counter counter ≤ c.store.rowSum counter := by
  obtain ⟨phases, -, hok, hcons⟩ := counters_owe h₀ h
  -- what the calls still owe is never negative
  have hdebt : 0 ≤ ((phases.map LedgerPhase.debt).sum) counter := by
    rw [Pi.list_sum_apply, List.map_map]
    refine List.sum_nonneg (fun x hx => ?_)
    obtain ⟨phase, hphase, rfl⟩ := List.mem_map.mp hx
    exact LedgerPhase.debt_nonneg (hok phase hphase) counter
  have := congrFun hcons counter
  simp only [Pi.add_apply] at this
  omega

/-- Once every call has come to its end, every counter is its rows. -/
theorem counters_eq_rowSum {db₀ : Db} (h₀ : db₀.Balanced) {c : Pool Db Unit}
    (h : Pool.Reach (LedgerCall db₀) ⟨db₀, []⟩ c) (hdone : c.AllDone) : c.store.Balanced := by
  obtain ⟨phases, hthreads, hok, hcons⟩ := counters_owe h₀ h
  -- a call that is through owes nothing
  have hdebt : (phases.map LedgerPhase.debt).sum = 0 := by
    refine List.sum_eq_zero (fun x hx => ?_)
    obtain ⟨phase, hphase, rfl⟩ := List.mem_map.mp hx
    exact LedgerPhase.debt_of_done (hok phase hphase)
      (hdone _ (hthreads ▸ List.mem_map_of_mem hphase))
  rw [hdebt, add_zero] at hcons
  exact congrFun hcons

/-! ## The rows of the metered doors -/

/-- A stored row that a metered door built. -/
def DoorRow (row : UsageEventRow) : Prop :=
  ∃ event, DoorBuilt event ∧ row = event.row row.createdAt

/-- A metered row of a door accounts for its own price. -/
theorem DoorRow.accounts {row : UsageEventRow} (h : DoorRow row) (hm : row.metered = true) :
    row.microUsd = row.fromAllowanceMicroUsd + row.fromCreditMicroUsd := by
  obtain ⟨event, hbuilt, hrow⟩ := h
  rw [hrow] at hm ⊢
  have hm' : event.metered = true := hm
  simpa [UsageEvent.row, UsageEvent.fromAllowance, UsageEvent.fromCredit, hm'] using
    (hbuilt.accounts hm').symm

/-! ## Drift in one direction only -/

/-- For every interleaving of ledger calls, dead calls included: no counter is
    above its rows; all counters are their rows once every call is through; and
    where the rows of a period are door rows, the period's spend is then what it
    took from the allowance and from credit. -/
theorem counters_bounded {db₀ : Db} (h₀ : db₀.Balanced) {c : Pool Db Unit}
    (h : Pool.Reach (LedgerCall db₀) ⟨db₀, []⟩ c) :
    (∀ counter, c.store.counter counter ≤ c.store.rowSum counter) ∧
    (c.AllDone →
      (∀ counter, c.store.counter counter = c.store.rowSum counter) ∧
      ∀ a k, (∀ row ∈ c.store.usageEvents, row.inPeriod a k = true → DoorRow row) →
        c.store.counter (.microUsd a k) = c.store.counter (.allowanceSpent a k) +
          Table.sumWhere (fun row => row.inPeriod a k && row.metered) (·.fromCreditMicroUsd)
            c.store.usageEvents) := by
  refine ⟨counters_le_rowSum h₀ h, fun hdone => ?_⟩
  have hbalanced := counters_eq_rowSum h₀ h hdone
  refine ⟨hbalanced, fun a k hdoors => ?_⟩
  -- both counters are sums over the same rows, compared row by row
  rw [hbalanced, hbalanced]
  simp only [Db.rowSum]
  rw [← Table.sumWhere_add]
  refine Table.sumWhere_congr (fun _ _ => rfl) (fun row hrow hin => ?_)
  obtain ⟨hperiod, hmetered⟩ := Bool.and_eq_true_iff.mp hin
  exact (hdoors row hrow hperiod).accounts hmetered

/-- One account, a charge of 30 recorded twice under one request id, and a
    true-up of 5 on it, interleaved. -/
theorem counters_bounded_retry :
    let plan : PlanRow := ⟨"free", "Free", 0, 20, 60, 1000, "[]"⟩
    let account : AccountRow := ⟨"acct", "free", none, none, 100, 0⟩
    let event : UsageEvent := ⟨"evt", "req", "acct", "client", "model", "2026-07", none, none, 30,
      20, 10, true, .measured, none, none, none⟩
    let row : UsageAdjustmentRow := ⟨"adj", "acct", some "evt", "req", "log", "2026-07", none, 30,
      35, 5, .spend, 5, "aig:log", none⟩
    let c := Pool.exec ⟨Db.withAccount plan account,
      [recordUsage event 0, applyUsageAdjustment row >>= fun _ => pure (),
        recordUsage { event with id := "retry" } 1]⟩ [0, 2, 1, 0, 1, 0]
    c.store.counter (.spent "acct") = 15 ∧
    c.store.counter (.microUsd "acct" "2026-07") = 30 ∧
    c.store.counter (.spent "acct") = c.store.rowSum (.spent "acct") := by
  intro plan account event row c
  -- three calls are in flight, the last a retry of the first
  have hreach : Pool.Reach (LedgerCall (Db.withAccount plan account))
      ⟨Db.withAccount plan account, []⟩ c := by
    refine (Pool.reach_start _ [] _ ?_).trans (Pool.reach_exec _ _)
    simp only [List.mem_cons, List.not_mem_nil, or_false]
    rintro p (rfl | rfl | rfl)
    · exact .recordUsage event 0 (by decide) (by decide) (by decide) (by decide)
    · exact .applyUsageAdjustment row (by decide) (by decide)
    · exact .recordUsage _ 1 (by decide) (by decide) (by decide) (by decide)
  -- the schedule runs all three to their ends
  have hdone : c.AllDone := by
    intro p hp
    have hthreads : c.threads = [.done (), .done (), .done ()] := rfl
    simp only [hthreads, List.mem_cons, List.not_mem_nil, or_false, or_self] at hp
    exact ⟨(), hp⟩
  exact ⟨by decide, by decide,
    ((counters_bounded (Db.balanced_withAccount rfl) hreach).2 hdone).1 (.spent "acct")⟩

end ControlPlane
