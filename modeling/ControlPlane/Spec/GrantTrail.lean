import ControlPlane.ForStd.Run
import ControlPlane.Model.Routes.Admin
import ControlPlane.Model.Routes.Store
import ControlPlane.Spec.Adjustments

/-!
# Every credit has its grant

Four writers advance `accounts.credit_micro_usd`: the opening grant, the operator
top-up, the store redeem and the downward true-up. The first three advance it
only beside a grant row that landed. A true-up whose key or id is already in
`credit_grants` advances it with no row of its own, and an operator may choose
any key.

## Key results

- `Db.GrantBook`: grants belong to accounts, accounts are stored under their id
- `CreditCall.drift`: what one call adds to an account's credit beyond its grants
- `credit_trail_iff`: credit is the sum of the grants in every state of a run
  exactly when no true-up of the run finds its grant key taken
-/

namespace ControlPlane

open Script Run

/-- Credit is the sum of the grants, account by account. -/
def Db.Trail (db : Db) : Prop :=
  ∀ a, db.credit a = db.granted a

/-- Accounts are stored under their own id, and every grant has its account. -/
structure Db.GrantBook (db : Db) : Prop where
  keyed : ∀ a row, db.accounts a = some row → row.id = a
  owned : ∀ grant ∈ db.creditGrants, (db.accounts grant.accountId).isSome

/-! ## The calls -/

section

variable {Key : Type} (platform : JwsPlatform Key)

/-- The calls that move credit, with the ids minted for them. -/
inductive CreditCall where
  | createAccount (raw : Json) (accountId grantId : String)
  | grantCredit (raw : Json) (accountId grantId : String)
  | redeem (env : RedeemEnv) (nowMs : Int) (caller : RedeemCaller) (account : AccountRow)
      (raw : Json) (grantId : String)
  | trueUp (row : UsageAdjustmentRow)

/-- The database after a completed call. -/
def Db.creditCall (db : Db) : CreditCall → Db
  | .createAccount raw accountId grantId => ((handleCreateAccount raw accountId grantId).run db).2
  | .grantCredit raw accountId grantId => ((handleGrantCredit raw accountId grantId).run db).2
  | .redeem env nowMs caller account raw grantId =>
    ((handleStoreRedeem platform env nowMs caller account raw grantId).run db).2
  | .trueUp row => ((applyUsageAdjustment row).run db).2

/-- A redeem is authenticated, and a true-up is for a ledger row, so both name
    an account that exists. -/
def CreditCall.Valid (db : Db) : CreditCall → Prop
  | .redeem _ _ caller _ _ _ => (db.accounts caller.accountId).isSome
  | .trueUp row => (db.accounts row.accountId).isSome
  | _ => True

/-- A true-up that gives credit finds neither its key nor its id among the grants. -/
def CreditCall.Clean (db : Db) : CreditCall → Prop
  | .trueUp row => row.direction = .credit → row.appliedMicroUsd ≠ 0 →
      db.adjustmentTaken row = false → db.grantTaken row.grant = false
  | _ => True

end

/-! ## What a call is at the store -/

/-- A call that is one grant for an account that exists, or nothing. -/
def GrantsOrNothing (db db' : Db) : Prop :=
  db' = db ∨ ∃ args : GrantCreditArgs, (db.accounts args.accountId).isSome ∧
    db' = ((grantCredit args).run db).2

theorem handleGrantCredit_grants {db : Db} (hbook : db.GrantBook) (raw : Json)
    (accountId grantId : String) :
    GrantsOrNothing db ((handleGrantCredit raw accountId grantId).run db).2 := by
  unfold handleGrantCredit
  cases grantCreditBody raw with
  | error err => exact .inl rfl
  | ok body =>
    obtain ⟨microUsd, key⟩ := body
    cases hrow : db.accounts accountId with
    -- no such account: nothing is written
    | none => exact .inl (by simp [getAccount, hrow])
    | some row =>
      refine .inr ⟨⟨grantId, row.id, microUsd, key, raw.strField "note"⟩, ?_, ?_⟩
      · rw [hbook.keyed accountId row hrow, hrow]; rfl
      · simp [getAccount, hrow]

theorem handleStoreRedeem_grants {Key : Type} (platform : JwsPlatform Key) {db : Db}
    (env : RedeemEnv) (nowMs : Int) (caller : RedeemCaller) (account : AccountRow) (raw : Json)
    (grantId : String) (haccount : (db.accounts caller.accountId).isSome) :
    GrantsOrNothing db
      ((handleStoreRedeem platform env nowMs caller account raw grantId).run db).2 := by
  unfold handleStoreRedeem
  cases redeemClaim platform env nowMs raw with
  | error err => exact .inl rfl
  | ok claim =>
    cases hcredit : redeemCredit claim with
    -- refused before the grant
    | error err => exact .inl (by simp [hcredit])
    | ok micro =>
      refine .inr ⟨claim.grantArgs caller grantId micro, haccount, ?_⟩
      simp [hcredit, redeemGrant, getAccount]

/-- Only the batch of `createAccount` writes. -/
theorem run_createAccount (db : Db) (args : CreateAccountArgs) :
    ((createAccount args).run db).2 = (db.createAccountBatch args).1 := by
  simp only [createAccount, getAccount, bind_eq_bind, run_bind]
  split
  · simp only [run_bind, run_read, run_exec]
    split <;> rfl
  · rfl

theorem handleCreateAccount_creates (db : Db) (raw : Json) (accountId grantId : String) :
    ((handleCreateAccount raw accountId grantId).run db).2 = db ∨
      ∃ args, ((handleCreateAccount raw accountId grantId).run db).2 =
        (db.createAccountBatch args).1 := by
  unfold handleCreateAccount
  cases hid : raw.strField "plan_id" with
  | none => exact .inl rfl
  | some planId =>
    by_cases htrim : JsString.trim planId = ""
    · exact .inl (by simp [htrim])
    · cases hplan : db.plans (JsString.trim planId) with
      | none => exact .inl (by simp [htrim, getPlan, hplan])
      | some plan =>
        -- the only write is the batch of the account and its signup grant
        refine .inr ⟨⟨accountId, plan.id, raw.strField "label", plan.signupCreditMicroUsd, grantId,
          "signup:" ++ accountId⟩, ?_⟩
        simp only [htrim, if_false, getPlan, bind_eq_bind, run_bind, run_read, hplan]
        rw [← run_createAccount]
        split <;> rfl

/-! ## What a call adds beyond the grants -/

/-- What one call adds to an account's credit that no grant row accounts for. -/
def CreditCall.drift (db : Db) : CreditCall → String → Int
  | .trueUp row => fun a =>
    if row.direction = .credit ∧ db.adjustmentTaken row = false ∧ db.grantTaken row.grant = true ∧
        row.accountId = a then row.appliedMicroUsd else 0
  | _ => 0

/-- A call keeps the book and drifts by `n a`. -/
def Db.Drifts (db db' : Db) (n : String → Int) : Prop :=
  db'.GrantBook ∧ ∀ a, db'.credit a - db'.granted a = db.credit a - db.granted a + n a

theorem Db.Drifts.refl {db : Db} (hbook : db.GrantBook) : db.Drifts db 0 :=
  ⟨hbook, fun _ => (add_zero _).symm⟩

theorem Db.GrantBook.updateAccount {db : Db} (hbook : db.GrantBook) (a : String)
    {f : AccountRow → AccountRow} (hf : ∀ row, (f row).id = row.id) :
    (db.updateAccount a f).GrantBook := by
  refine ⟨fun b row hrow => ?_, fun grant hgrant => by simpa using hbook.owned grant hgrant⟩
  simp only [Db.updateAccount] at hrow
  split at hrow
  · obtain ⟨old, hold, rfl⟩ := Option.map_eq_some_iff.mp hrow
    exact (hf old).trans (hbook.keyed b old hold)
  · exact hbook.keyed b row hrow

theorem Db.GrantBook.addGrant {db : Db} (hbook : db.GrantBook) {row : CreditGrantRow}
    (hsome : (db.accounts row.accountId).isSome) : (db.addGrant row).GrantBook := by
  refine ⟨hbook.keyed, fun grant hgrant => ?_⟩
  rcases List.mem_append.mp hgrant with hold | hnew
  · exact hbook.owned grant hold
  · exact List.mem_singleton.mp hnew ▸ hsome

/-- A grant row and its money move together. -/
theorem drifts_grant {db : Db} (hbook : db.GrantBook) {row : CreditGrantRow}
    (hsome : (db.accounts row.accountId).isSome) :
    db.Drifts ((db.addGrant row).updateAccount row.accountId (.addCredit row.microUsd)) 0 := by
  refine ⟨(hbook.addGrant hsome).updateAccount _ (fun _ => rfl), fun a => ?_⟩
  rw [(db.addGrant row).credit_addCredit row.accountId a row.microUsd hsome,
    Db.granted_updateAccount, db.granted_addGrant row a, Db.credit_addGrant, Pi.zero_apply,
    add_zero]
  exact add_sub_add_right_eq_sub _ _ _

theorem drifts_grantCredit {db : Db} (hbook : db.GrantBook) {args : GrantCreditArgs}
    (hsome : (db.accounts args.accountId).isSome) :
    db.Drifts ((grantCredit args).run db).2 0 := by
  cases htaken : db.grantTaken args.row with
  | true =>
    rw [run_grantCredit_ignored htaken]
    exact .refl hbook
  | false =>
    rw [(run_grantCredit_landed htaken).2]
    exact drifts_grant hbook (show (db.accounts args.row.accountId).isSome from hsome)

/-- The opening grant is the account's whole credit. -/
theorem drifts_createAccountBatch {db : Db} (hbook : db.GrantBook) (args : CreateAccountArgs) :
    db.Drifts (db.createAccountBatch args).1 0 := by
  unfold Db.createAccountBatch
  dsimp only
  split
  · exact .refl hbook
  next hfree =>
    have hnone : db.accounts args.id = none := by
      cases h : db.accounts args.id with
      | none => rfl
      | some row => simp [h] at hfree
    refine ⟨⟨fun b row hrow => ?_, fun grant hgrant => ?_⟩, fun a => ?_⟩
    · dsimp only at hrow
      split at hrow
      next hb => rw [← Option.some.inj hrow, hb]
      next => exact hbook.keyed b row hrow
    · dsimp only at hgrant ⊢
      rcases List.mem_append.mp hgrant with hold | hnew
      · have := hbook.owned grant hold
        split <;> simp [this]
      · simp [List.mem_singleton.mp hnew]
    · -- a grant of this account would name one that is not there
      have hgranted : db.granted args.id = 0 :=
        Table.sumWhere_eq_zero (fun grant hgrant hid => by
          have := hbook.owned grant hgrant
          rw [eq_of_beq hid, hnone] at this
          cases this)
      by_cases ha : a = args.id
      · subst ha
        rw [hgranted]
        simp only [Db.granted] at hgranted
        simp [Db.credit, Db.granted, hnone, hgranted]
      · simp [Db.credit, Db.granted, ha, Ne.symm ha]

/-- The money batch of a true-up drifts by its amount when its grant insert is
    ignored. -/
theorem drifts_moveMoney {db : Db} (hbook : db.GrantBook) {row : UsageAdjustmentRow}
    (hsome : (db.accounts row.accountId).isSome) :
    db.Drifts (db.moveMoney row) (fun a =>
      if row.direction = .credit ∧ db.grantTaken row.grant = true ∧ row.accountId = a
      then row.appliedMicroUsd else 0) := by
  unfold Db.moveMoney
  cases hd : row.direction with
  | spend =>
    obtain ⟨hkeyed, howned⟩ := hbook.updateAccount row.accountId
      (f := .addSpent row.appliedMicroUsd) (fun _ => rfl)
    exact ⟨⟨hkeyed, howned⟩, fun a => by simp⟩
  | credit =>
    cases htaken : db.grantTaken row.grant with
    -- the insert is ignored while the account's credit still grows
    | true =>
      obtain ⟨hkeyed, howned⟩ := hbook.updateAccount row.accountId
        (f := .addCredit row.appliedMicroUsd) (fun _ => rfl)
      simp only [db.insertGrant_of_taken htaken]
      refine ⟨⟨hkeyed, howned⟩, fun a => ?_⟩
      rw [Db.credit_upsertPeriod, db.credit_addCredit row.accountId a _ hsome,
        Db.granted_upsertPeriod, Db.granted_updateAccount]
      simp only [true_and]
      omega
    | false =>
      obtain ⟨⟨hkeyed, howned⟩, hdrift⟩ :=
        drifts_grant hbook (show (db.accounts row.grant.accountId).isSome from hsome)
      simp only [db.insertGrant_of_free htaken]
      refine ⟨⟨hkeyed, howned⟩, fun a => ?_⟩
      simpa using hdrift a

/-- A true-up drifts when it lands and its grant insert is ignored. -/
theorem drifts_trueUp {db : Db} (hbook : db.GrantBook) {row : UsageAdjustmentRow}
    (hsome : (db.accounts row.accountId).isSome) :
    db.Drifts ((applyUsageAdjustment row).run db).2 ((CreditCall.trueUp row).drift db) := by
  cases htaken : db.adjustmentTaken row with
  -- applied before: nothing moves
  | true =>
    have hdrift : (CreditCall.trueUp row).drift db = 0 := by
      funext a
      simp [CreditCall.drift, htaken]
    rw [run_applyUsageAdjustment_taken htaken, hdrift]
    exact .refl hbook
  -- a credit whose grant is taken moves the money and leaves no trail
  | false =>
    rw [run_applyUsageAdjustment_free htaken]
    have hadded : (db.addAdjustment row).GrantBook := ⟨hbook.keyed, hbook.owned⟩
    obtain ⟨hbook', hdrift⟩ := drifts_moveMoney hadded hsome
    refine ⟨hbook', fun a => ?_⟩
    have hshare : (CreditCall.trueUp row).drift db a =
        if row.direction = .credit ∧ db.grantTaken row.grant = true ∧ row.accountId = a
        then row.appliedMicroUsd else 0 := by
      simp [CreditCall.drift, htaken]
    rw [hshare]
    exact hdrift a

/-- What one call does to the book. -/
theorem drifts_creditCall {Key : Type} (platform : JwsPlatform Key) {db : Db} {call : CreditCall}
    (hbook : db.GrantBook) (hvalid : call.Valid db) :
    db.Drifts (db.creditCall platform call) (call.drift db) := by
  cases call with
  | createAccount raw accountId grantId =>
    simp only [Db.creditCall, CreditCall.drift]
    rcases handleCreateAccount_creates db raw accountId grantId with h | ⟨args, h⟩ <;> rw [h]
    · exact .refl hbook
    · exact drifts_createAccountBatch hbook args
  | grantCredit raw accountId grantId =>
    simp only [Db.creditCall, CreditCall.drift]
    rcases handleGrantCredit_grants hbook raw accountId grantId with h | ⟨args, hsome, h⟩ <;> rw [h]
    · exact .refl hbook
    · exact drifts_grantCredit hbook hsome
  | redeem env nowMs caller account raw grantId =>
    simp only [Db.creditCall, CreditCall.drift]
    rcases handleStoreRedeem_grants platform env nowMs caller account raw grantId hvalid with
      h | ⟨args, hsome, h⟩ <;> rw [h]
    · exact .refl hbook
    · exact drifts_grantCredit hbook hsome
  -- only a true-up can move money without its trail
  | trueUp row => exact drifts_trueUp hbook hvalid

/-- A call from a state whose trail holds keeps it exactly when it is clean. -/
theorem trail_creditCall_iff {Key : Type} (platform : JwsPlatform Key) {db : Db}
    {call : CreditCall} (hbook : db.GrantBook) (hvalid : call.Valid db) (htrail : db.Trail) :
    (db.creditCall platform call).Trail ↔ call.Clean db := by
  have hdrift := (drifts_creditCall platform hbook hvalid).2
  -- the trail was there before, so it is there after exactly when nothing drifts
  have hiff : (db.creditCall platform call).Trail ↔ ∀ a, call.drift db a = 0 := by
    refine forall_congr' (fun a => ?_)
    have := hdrift a
    have := htrail a
    omega
  rw [hiff]
  cases call with
  | trueUp row =>
    simp only [CreditCall.drift, CreditCall.Clean]
    constructor
    -- a credit that applied something and found its grant taken drifts
    · intro hzero hd happlied hfree
      by_contra htaken
      rw [Bool.not_eq_false] at htaken
      exact happlied (by simpa [hd, hfree, htaken] using hzero row.accountId)
    · intro hclean a
      split
      next h =>
        by_contra happlied
        rw [hclean h.1 happlied h.2.1] at h
        exact absurd h.2.2.1 (by simp)
      next => rfl
  | _ => exact iff_of_true (fun _ => rfl) trivial

/-! ## Every run -/

/-- No accounts and no grants yet. -/
def Db.Unopened (db : Db) : Prop :=
  (∀ a, db.accounts a = none) ∧ db.creditGrants = []

/-- In a run of completed calls from an unopened database, credit is the sum of
    the grants in every state exactly when every true-up that gives credit finds
    its grant key and id free. -/
theorem credit_trail_iff {Key : Type} (platform : JwsPlatform Key) {db₀ : Db}
    (h₀ : db₀.Unopened) {calls : List CreditCall}
    (hvalid : EveryStep (Db.creditCall platform) (fun db call => call.Valid db) db₀ calls) :
    EveryState (Db.creditCall platform) Db.Trail db₀ calls ↔
      EveryStep (Db.creditCall platform) (fun db call => call.Clean db) db₀ calls := by
  refine everyState_iff_everyStep (I := Db.GrantBook) ⟨?_, ?_⟩ ?_ hvalid
    (fun db call hbook hcall => (drifts_creditCall platform hbook hcall).1)
    (fun db call hbook hcall htrail => trail_creditCall_iff platform hbook hcall htrail)
  · simp [h₀.1]
  · simp [h₀.2]
  · intro a
    simp [Db.credit, Db.granted, h₀.1, h₀.2]

/-! ## An operator key that a true-up needs -/

/-- No purchase is presented in the runs below. -/
def idlePlatform : JwsPlatform Unit where
  atob _ := none
  parseJson _ := none
  encodeText _ := []
  parseCertificate _ := none
  verifyCertificateSignedBy _ _ := false
  derEcdsaToP1363 _ _ := none
  importsKey _ := false
  verifyEcdsa _ _ _ := false
  pinnedRootDer := none

/-- A plan, and no account yet. -/
def seededStore : Db :=
  { Db.empty with
    plans := fun p => if p = "free" then some ⟨"free", "Free", 100, 0, 60, 1000, "[]"⟩ else none }

theorem seededStore_unopened : seededStore.Unopened :=
  ⟨fun _ => rfl, rfl⟩

/-- Gateway log `log-1` was estimated at 90 and billed at 50. -/
def overestimate : UsageAdjustmentRow where
  id := "adj_1"
  accountId := "acct"
  usageEventId := some "evt_1"
  requestId := "req_1"
  gatewayLogId := "log-1"
  periodKey := "2026-08"
  modelId := some "model"
  estimateMicroUsd := 90
  gatewayMicroUsd := 50
  deltaMicroUsd := -40
  direction := .credit
  appliedMicroUsd := 40
  idempotencyKey := "aig:log-1"
  note := none

/-- An account is opened, topped up under the key, and trued up. -/
def toppedUp (key : String) : List CreditCall :=
  [.createAccount (.obj [("plan_id", .str "free")]) "acct" "grant_0",
    .grantCredit (.obj [("micro_usd", .num 1000), ("idempotency_key", .str key)]) "acct" "grant_1",
    .trueUp overestimate]

/-- The database the true-up finds. -/
def toppedUpStore (key : String) : Db :=
  runAll (Db.creditCall idlePlatform) seededStore ((toppedUp key).take 2)

theorem toppedUp_valid {key : String}
    (h : ((toppedUpStore key).accounts overestimate.accountId).isSome) :
    EveryStep (Db.creditCall idlePlatform) (fun db call => call.Valid db) seededStore
      (toppedUp key) := by
  simp only [toppedUpStore, toppedUp, List.take_succ_cons, List.take_zero, runAll_cons,
    runAll_nil] at h
  simp only [toppedUp, EveryStep, CreditCall.Valid, true_and, and_true]
  exact h

/-- A top-up under `aig:log-1` leaves the true-up's 40 without a grant row. -/
theorem credit_trail_operator_key :
    seededStore.Unopened ∧
    EveryStep (Db.creditCall idlePlatform) (fun db call => call.Valid db) seededStore
      (toppedUp "aig:log-1") ∧
    (runAll (Db.creditCall idlePlatform) seededStore (toppedUp "aig:log-1")).credit "acct" = 1140 ∧
    (runAll (Db.creditCall idlePlatform) seededStore (toppedUp "aig:log-1")).granted "acct" =
      1100 := by
  have hsome : ((toppedUpStore "aig:log-1").accounts overestimate.accountId).isSome = true := by
    decide +kernel
  refine And.intro seededStore_unopened (And.intro (toppedUp_valid hsome) (And.intro ?_ ?_))
  · decide +kernel
  · decide +kernel

/-- Under a key of its own the same top-up keeps the trail. -/
theorem credit_trail_other_key :
    EveryState (Db.creditCall idlePlatform) Db.Trail seededStore (toppedUp "invoice-7") := by
  have hfree : (toppedUpStore "invoice-7").grantTaken overestimate.grant = false := by
    decide +kernel
  refine (credit_trail_iff idlePlatform seededStore_unopened
    (toppedUp_valid (by decide +kernel))).mpr ?_
  simp only [toppedUpStore, toppedUp, List.take_succ_cons, List.take_zero, runAll_cons,
    runAll_nil] at hfree
  simp only [toppedUp, EveryStep, CreditCall.Clean, true_and, and_true]
  exact fun _ _ _ => hfree

end ControlPlane
