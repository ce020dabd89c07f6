import ControlPlane.Spec.AccessSystem
import ControlPlane.Spec.LedgerCounters

/-!
# The statements keep the tables sound

One lemma for each statement that writes a table callers are resolved from. The money
statements write no column of an account that identity depends on.

## Key results

- `LedgerStep.writes`: money moves beside identity
- `writes_createAccount` / `writes_insertClient` / `writes_insertTicket`: the new rows
- `writes_revoke` / `writes_consumeTicket`: what happens to a row once
-/

namespace ControlPlane

open Rows

variable {digests : Media.Digests} {Calls : AccessCall → Prop}

/-! ## Money -/

/-- An account row before and after money moved. -/
structure SameIdentity (a b : String × AccountRow) : Prop where
  key : b.1 = a.1
  id : b.2.id = a.2.id
  plan : b.2.planId = a.2.planId
  suspended : b.2.suspendedAt = a.2.suspendedAt

/-- What the statements of the money path do to the tables of identity. -/
structure LedgerStep (a b : Db) : Prop where
  plans : b.plans = a.plans
  accounts : Grows SameIdentity (fun _ => False) (entries a.accounts) (entries b.accounts)

/-- An account row has its own identity. -/
theorem SameIdentity.refl (p : String × AccountRow) : SameIdentity p p := ⟨rfl, rfl, rfl, rfl⟩

/-- Two ledgers with the same plans and accounts. -/
theorem LedgerStep.of_eq {a b : Db} (hplans : b.plans = a.plans)
    (haccounts : b.accounts = a.accounts) : LedgerStep a b := by
  refine ⟨hplans, ?_⟩
  rw [haccounts]
  exact .refl SameIdentity.refl _

/-- Adding credit leaves every account's identity alone. -/
theorem LedgerStep.addCredit (db : Db) (id : String) (microUsd : Int) :
    LedgerStep db (db.updateAccount id (.addCredit microUsd)) :=
  ⟨rfl, .modify SameIdentity.refl fun _ => ⟨rfl, rfl, rfl, rfl⟩⟩

/-- So does adding to what an account has spent. -/
theorem LedgerStep.addSpent (db : Db) (id : String) (microUsd : Int) :
    LedgerStep db (db.updateAccount id (.addSpent microUsd)) :=
  ⟨rfl, .modify SameIdentity.refl fun _ => ⟨rfl, rfl, rfl, rfl⟩⟩

/-- So does moving the money of an adjustment. -/
theorem LedgerStep.moveMoney (db : Db) (row : UsageAdjustmentRow) :
    LedgerStep db (db.moveMoney row) := by
  unfold Db.moveMoney
  -- upward the account's spend moves, downward its credit
  split
  · exact ⟨rfl, (LedgerStep.addSpent db _ _).accounts⟩
  · exact ⟨rfl, (LedgerStep.addCredit (db.insertGrant row.grant).1 _ _).accounts⟩

/-- A read. -/
theorem LedgerStep.refl (db : Db) : LedgerStep db db := .of_eq rfl rfl

/-- Recording a call is a ledger step. -/
theorem recordUsage_ledgerStep (event : UsageEvent) (createdAt : Int) :
    (recordUsage event createdAt).Steps LedgerStep := by
  refine .bind (.exec fun db => .of_eq rfl rfl) fun insert => ?_
  -- only a row that landed has counters to advance
  split
  · refine .bind (.exec fun db => .of_eq rfl rfl) fun _ => ?_
    unfold advanceSpent
    split
    · exact .exec fun db => .addSpent db _ _
    · exact .done _
  · exact .done _

/-- So is applying an adjustment. -/
theorem applyUsageAdjustment_ledgerStep (row : UsageAdjustmentRow) :
    (applyUsageAdjustment row).Steps LedgerStep := by
  refine .bind (.exec fun db => .of_eq rfl rfl) fun insert => ?_
  split
  · exact .bind (.exec fun db => .moveMoney db row) fun _ => .done _
  · exact .done _

/-- So is granting credit. -/
theorem grantCredit_ledgerStep (args : GrantCreditArgs) : (grantCredit args).Steps LedgerStep := by
  refine .bind (.exec fun db => .of_eq rfl rfl) fun insert => ?_
  -- the answer reads the account once more
  have hread : Script.Steps LedgerStep (do
      let row ← getAccount args.accountId
      pure (⟨insert, (row.map (·.creditMicroUsd)).getD 0⟩ : GrantCreditResult)) :=
    .bind (.read LedgerStep.refl) fun _ => .done _
  dsimp only
  split
  · exact .bind (.exec fun db => .addCredit db _ _) fun _ => hread
  · exact hread

/-- So is the operator's route that grants it. -/
theorem handleGrantCredit_ledgerStep (raw : Json) (accountId grantId : String) :
    (handleGrantCredit raw accountId grantId).Steps LedgerStep := by
  unfold handleGrantCredit
  split
  · exact .done _
  · refine .bind (.read LedgerStep.refl) fun account => ?_
    cases account with
    | none => exact .done _
    | some account => exact .bind (grantCredit_ledgerStep _) fun _ => .done _

/-! ## The writes -/

namespace Writes

variable {db : AccessDb}

/-- A ledger step is one of the writes. -/
theorem setLedger {ledger : Db} (h : LedgerStep db.ledger ledger) :
    Writes digests Calls db { db with ledger := ledger } :=
  { refl db with
    plans := by
      show Grows _ _ _ (entries ledger.plans)
      rw [h.plans]
      exact .refl KeepsPlan.refl _
    accounts := by
      refine ⟨fun p hp => ?_, fun p hp => ?_⟩
      · obtain ⟨p', hp', hsame⟩ := h.accounts.kept p hp
        exact ⟨p', hp', hsame.key, hsame.id, hsame.plan, fun h => .inl (hsame.suspended ▸ h)⟩
      · rcases h.accounts.found p hp with ⟨old, hold, hsame⟩ | hnew
        · exact .inl ⟨old, hold, hsame.key, hsame.id, hsame.plan,
            fun h => .inl (hsame.suspended ▸ h)⟩
        · cases hnew }

/-- A write that is no column of identity. -/
theorem of_eq {db' : AccessDb} (hledger : db'.ledger = db.ledger)
    (henrollments : db'.enrollments = db.enrollments) (hclients : db'.clients = db.clients)
    (htickets : db'.sttTickets = db.sttTickets) : Writes digests Calls db db' := by
  constructor
  · rw [hledger]
    exact .refl KeepsPlan.refl _
  · rw [hledger]
    exact .refl KeepsAccount.refl _
  · rw [henrollments]
    exact .refl KeepsEnrollment.refl _
  · rw [hclients]
    exact .refl KeepsClient.refl _
  · rw [hclients]
    exact id
  · rw [htickets]
    exact .refl KeepsTicket.refl _

/-- So is storing a plan that can be read back. -/
theorem putPlan {row : PlanRow} (hid : isPlanId row.id = true)
    (h : ∃ plan, planFromRow row = .ok plan) : Writes digests Calls db (db.putPlan row) :=
  { refl db with
    plans := .put KeepsPlan.refl (fun _ _ => ⟨rfl, .inr ⟨rfl, hid, h⟩⟩) fun _ => ⟨rfl, hid, h⟩ }

/-- So is suspending an account, where that is one of the calls. -/
theorem suspend (accountId : String) (suspendedAt : Option Int)
    (h : Calls (.suspend accountId suspendedAt)) : Writes digests Calls db
      { db with ledger := db.ledger.updateAccount accountId (.suspend suspendedAt) } :=
  { refl db with
    accounts := .modify KeepsAccount.refl fun row => ⟨rfl, rfl, rfl, fun hsome => by
      obtain ⟨time, htime⟩ := Option.isSome_iff_exists.mp hsome
      obtain rfl : suspendedAt = some time := htime
      exact .inr ⟨time, h⟩⟩ }

/-- The batch of a new account lands on a plan there is. -/
theorem createAccount {args : CreateAccountArgs} (hplan : (db.ledger.plans args.planId).isSome)
    (hopens : Opens Calls args.id) :
    Writes digests Calls db { db with ledger := (db.ledger.createAccountBatch args).1 } := by
  unfold Db.createAccountBatch
  dsimp only
  split
  next => exact refl db
  next hfresh =>
    -- the batch lands only on an id that is free
    have hnone : db.ledger.accounts args.id = none := by
      rw [Bool.or_eq_true, not_or, Option.not_isSome_iff_eq_none] at hfresh
      exact hfresh.1
    exact { refl db with
      accounts := .put KeepsAccount.refl (fun old hold => by rw [hnone] at hold; cases hold)
        fun _ => ⟨rfl, hplan, hopens, fun h => by cases h⟩ }

/-- So is inserting an enrollment for an account that exists. -/
theorem insertEnrollment {row : EnrollmentRow} (h : (db.ledger.accounts row.accountId).isSome) :
    Writes digests Calls db (db.insertEnrollment row).1 := by
  unfold AccessDb.insertEnrollment
  split
  next => exact refl db
  next hfresh =>
    exact { refl db with
      enrollments := .put KeepsEnrollment.refl
        (fun old hold => by rw [hold] at hfresh; exact absurd rfl hfresh) fun _ => h }

/-- So is consuming an enrollment token. -/
theorem consume (tokenHash clientId : String) :
    Writes digests Calls db (db.setIdentity (db.identity.consume tokenHash clientId).1) := by
  unfold IdentityDb.consume
  split
  next => exact refl db
  next row hrow =>
    split
    -- valid: the row keeps its hash and its account
    next =>
      exact { refl db with
        enrollments := .put KeepsEnrollment.refl
          (fun old hold => by
            obtain rfl : row = old := Option.some.inj (hrow.symm.trans hold)
            exact ⟨rfl, rfl⟩)
          fun hnone => by
            rw [show db.enrollments tokenHash = some row from hrow] at hnone
            cases hnone }
    next => exact refl db

/-- A client is inserted whose id and key id are nobody's. -/
theorem insertClient {row : ClientRow} (h : SoundClient digests Calls db row) :
    Writes digests Calls db (db.setIdentity (db.identity.insertClient row).1) := by
  unfold IdentityDb.insertClient
  dsimp only
  rcases Table.insertOrIgnore_cases IdentityDb.clientConflict row db.clients with
    ⟨heq, -⟩ | ⟨heq, hfree⟩
  -- its id or its key id is taken: nothing is written
  · rw [show db.identity.clients = db.clients from rfl, heq]
    exact refl db
  · rw [show db.identity.clients = db.clients from rfl, heq]
    refine { refl db with clients := .append KeepsClient.refl h _, distinct := fun hdb => ?_ }
    refine List.pairwise_append.mpr ⟨hdb, List.pairwise_singleton _ _, fun a ha b hb => ?_⟩
    obtain rfl := List.mem_singleton.mp hb
    have hab := hfree a ha
    simp only [IdentityDb.clientConflict, Bool.or_eq_false_iff, beq_eq_false_iff_ne] at hab
    exact hab

/-- The store's clock is read as the instant it shows. -/
theorem sqlDatetime_datetimeNow (db : AccessDb) :
    sqlDatetime db.datetimeNow = sqlDatetime db.now := by
  show sqlDatetime db.now * 1000000000 / 1000000000 = _
  exact Int.mul_ediv_cancel _ (by decide)

/-- So is revoking a client, where that is one of the calls. -/
theorem revoke {clientId : String} (h : Calls (.revokeClient clientId)) :
    Writes digests Calls db (db.revoke clientId).1 := by
  have hkeep (row : ClientRow) :
      KeepsClient Calls row (AccessDb.revokedRow clientId db.datetimeNow row) := by
    unfold AccessDb.revokedRow
    split
    -- the row is the client's, and not revoked yet
    next hrow =>
      refine ⟨rfl, fun hsome => ?_, fun _ => .inr (hrow.1 ▸ h)⟩
      rw [hrow.2] at hsome
      cases hsome
    next => exact .refl row
  refine { refl db with clients := .map fun row _ => hkeep row, distinct := fun hdb => ?_ }
  refine List.pairwise_map.mpr (hdb.imp fun {a b} hab => ?_)
  rw [(hkeep a).fields.1, (hkeep b).fields.1, (hkeep a).fields.2.2.1, (hkeep b).fields.2.2.1]
  exact hab

/-- So is inserting a sound ticket. -/
theorem insertTicket {row : SttTicketRow} (h : SoundTicket digests Calls db (row.tokenHash, row)) :
    Writes digests Calls db (db.insertTicket row).1 := by
  unfold AccessDb.insertTicket
  split
  next => exact refl db
  next hfresh =>
    exact { refl db with
      tickets := .put KeepsTicket.refl
        (fun old hold => by rw [hold] at hfresh; exact absurd rfl hfresh) fun _ => h }

/-- So is consuming one. -/
theorem consumeTicket (tokenHash : String) :
    Writes digests Calls db (db.consumeTicket tokenHash).1 := by
  unfold AccessDb.consumeTicket
  split
  next => exact refl db
  next row hrow =>
    split
    -- open and in time: the row is stamped with the clock of the store
    next hopen =>
      exact { refl db with
        tickets := .put KeepsTicket.refl
          (fun old hold => by
            obtain rfl : row = old := Option.some.inj (hrow.symm.trans hold)
            refine ⟨rfl, rfl, fun hsome => ?_, fun time htime => .inr ?_⟩
            · rw [hopen.1] at hsome
              cases hsome
            · obtain rfl : db.datetimeNow = time := Option.some.inj htime
              exact sqlDatetime_datetimeNow db ▸ hopen.2)
          fun hnone => by rw [hrow] at hnone; cases hnone }
    next => exact refl db

end Writes

end ControlPlane
