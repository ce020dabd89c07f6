import ControlPlane.Spec.Grants

/-!
# Retrying a top-up

Attempts at one grant, each under the same key and each cut after some number of
statements. The insert gate makes a second credit impossible; it also makes a
retry skip the credit the first attempt did not get to.

## Key results

- `credit_attempts`: the credit after any sequence of attempts
- `grantCredit_retry_iff`: a normal return means the grant is in the credit
  exactly when the attempt that stored the grant row was not cut right after it
-/

namespace ControlPlane

open Script

/-- One attempt, cut after `cut` statements. -/
structure GrantAttempt where
  args : GrantCreditArgs
  cut : Nat

/-- The store after an attempt. -/
def Db.attempt (db : Db) (a : GrantAttempt) : Db :=
  (runFor a.cut (grantCredit a.args) db).2

/-- The store after a sequence of attempts. -/
def Db.attempts (db : Db) (as : List GrantAttempt) : Db :=
  as.foldl Db.attempt db

/-- An attempt came to its end and answered its caller. -/
def GrantAttempt.Returns (a : GrantAttempt) (db : Db) : Prop :=
  ∃ result, (runFor a.cut (grantCredit a.args) db).1 = .done result

/-- The attempt that stores the grant row: the first to execute its first statement. -/
def storingAttempt (as : List GrantAttempt) : Option GrantAttempt :=
  as.find? (fun a => a.cut ≠ 0)

/-- Attempts at one grant of one account, under a key and ids that are free. -/
structure SameGrant (db : Db) (accountId key : String) (as : List GrantAttempt) : Prop where
  account_some : (db.accounts accountId).isSome
  account_eq : ∀ a ∈ as, a.args.accountId = accountId
  key_eq : ∀ a ∈ as, a.args.idempotencyKey = key
  free : ∀ a ∈ as, db.grantTaken a.args.row = false

/-! ## One attempt -/

/-- Once a grant is stored under the key, no attempt does anything. -/
theorem attempts_of_taken {db : Db} {key : String} {as : List GrantAttempt}
    {stored : CreditGrantRow} (hstored : stored ∈ db.creditGrants)
    (hkey : stored.idempotencyKey = key) (has : ∀ a ∈ as, a.args.idempotencyKey = key) :
    db.attempts as = db := by
  induction as with
  | nil => rfl
  | cons a as ih =>
    have htaken : db.grantTaken a.args.row = true :=
      db.grantTaken_of_mem hstored (hkey.trans (has a (by simp)).symm)
    have hattempt : db.attempt a = db := runFor_grantCredit_ignored htaken a.cut
    rw [Db.attempts, List.foldl_cons, hattempt]
    exact ih (fun b hb => has b (by simp [hb]))

/-- The attempt that gets to its first statement stores the row, and advances
    the credit unless it is cut there. -/
theorem attempt_stores {db : Db} {a : GrantAttempt} (hfree : db.grantTaken a.args.row = false)
    (hacct : (db.accounts a.args.accountId).isSome) (hcut : a.cut ≠ 0) :
    a.args.row ∈ (db.attempt a).creditGrants ∧
    (db.attempt a).credit a.args.accountId = db.credit a.args.accountId +
      (if a.cut = 1 then 0 else a.args.microUsd) := by
  rw [Db.attempt, runFor_grantCredit_landed hfree]
  match h : a.cut with
  | 0 => exact absurd h hcut
  | 1 => simp [Db.addGrant, Db.credit]
  | n + 2 =>
    refine ⟨by simp [Db.addGrant], ?_⟩
    have hcredit := (db.addGrant a.args.row).credit_addCredit a.args.accountId a.args.accountId
      a.args.microUsd hacct
    simpa using hcredit

/-! ## A sequence of attempts -/

/-- The credit after any sequence of attempts: the storing attempt decides. -/
theorem credit_attempts {db : Db} {accountId key : String} {as : List GrantAttempt}
    (h : SameGrant db accountId key as) :
    (db.attempts as).credit accountId = db.credit accountId +
      match storingAttempt as with
      | none => 0
      | some a => if a.cut = 1 then 0 else a.args.microUsd := by
  induction as with
  | nil => simp [Db.attempts, storingAttempt]
  | cons a as ih =>
    have hrest : SameGrant db accountId key as :=
      ⟨h.account_some, fun b hb => h.account_eq b (by simp [hb]),
        fun b hb => h.key_eq b (by simp [hb]), fun b hb => h.free b (by simp [hb])⟩
    rw [Db.attempts, List.foldl_cons]
    -- an attempt that was cut at once is skipped, any other one stores the grant
    by_cases hcut : a.cut = 0
    · have hattempt : db.attempt a = db := by simp [Db.attempt, hcut]
      have hskip : storingAttempt (a :: as) = storingAttempt as := by
        simp [storingAttempt, hcut]
      rw [hattempt, hskip]
      exact ih hrest
    · have hacct : a.args.accountId = accountId := h.account_eq a (by simp)
      obtain ⟨hmem, hcredit⟩ := attempt_stores (h.free a (by simp))
        (hacct ▸ h.account_some) hcut
      -- the key is taken from here on, and the later attempts change nothing
      have hrest' := attempts_of_taken hmem (h.key_eq a (by simp)) hrest.key_eq
      have hfirst : storingAttempt (a :: as) = some a := by
        simp [storingAttempt, hcut]
      rw [Db.attempts] at hrest'
      rw [hrest', hfirst, ← hacct]
      exact hcredit

/-- After any attempts, when one more returns normally: some attempt stored the
    grant row, and its amount is in the account's credit exactly once if and
    only if that attempt was not cut right after its first statement. -/
theorem grantCredit_retry_iff {db : Db} {accountId key : String} {as : List GrantAttempt}
    {last : GrantAttempt} (h : SameGrant db accountId key (as ++ [last]))
    (hpos : ∀ a ∈ as ++ [last], 0 < a.args.microUsd) (hreturns : last.Returns (db.attempts as)) :
    ∃ first, storingAttempt (as ++ [last]) = some first ∧
      ((db.attempts (as ++ [last])).credit accountId =
        db.credit accountId + first.args.microUsd ↔ first.cut ≠ 1) := by
  obtain ⟨result, hresult⟩ := hreturns
  have hlast : last.cut ≠ 0 := by
    have := two_le_of_grantCredit_done hresult
    omega
  have hsome : (storingAttempt (as ++ [last])).isSome := by
    simp only [storingAttempt, List.find?_isSome]
    exact ⟨last, by simp, by simpa using hlast⟩
  obtain ⟨first, hfirst⟩ := Option.isSome_iff_exists.mp hsome
  refine ⟨first, hfirst, ?_⟩
  have hmicro := hpos first (List.mem_of_find?_eq_some hfirst)
  rw [credit_attempts h, hfirst]
  dsimp only
  split <;> omega

/-- A top-up of 500 that dies after its grant row. -/
def lostTopUp : GrantAttempt := ⟨⟨"grant_1", "acct", 500, "invoice-7", none⟩, 1⟩

/-- Its retry, which runs to the end. -/
def retriedTopUp : GrantAttempt := ⟨⟨"grant_2", "acct", 500, "invoice-7", none⟩, 2⟩

/-- A store of one free account with some credit. -/
def topUpStore : Db :=
  .withAccount ⟨"free", "Free", 0, 0, 60, 1000, "[]"⟩ ⟨"acct", "free", none, none, 100, 0⟩

/-- The retry answers `applied: false`, and the 500 never arrive. -/
theorem grantCredit_retry_lost :
    (runFor retriedTopUp.cut (grantCredit retriedTopUp.args) (topUpStore.attempts [lostTopUp])).1 =
      .done ⟨false, 100⟩ ∧
    (topUpStore.attempts [lostTopUp, retriedTopUp]).credit "acct" ≠
      topUpStore.credit "acct" + retriedTopUp.args.microUsd :=
  ⟨rfl, by decide⟩

/-- A first attempt that does not get to its first statement. -/
def unsentTopUp : GrantAttempt := { lostTopUp with cut := 0 }

/-- After that one, a retry that runs to the end delivers the 500. -/
theorem grantCredit_retry_kept :
    (topUpStore.attempts ([unsentTopUp] ++ [⟨retriedTopUp.args, 3⟩])).credit "acct" = 600 := by
  have hsame : SameGrant topUpStore "acct" "invoice-7"
      ([unsentTopUp] ++ [⟨retriedTopUp.args, 3⟩]) :=
    ⟨by decide, by decide, by decide, by decide⟩
  obtain ⟨first, hfirst, hiff⟩ := grantCredit_retry_iff hsame (by decide) ⟨⟨true, 600⟩, rfl⟩
  have hretried : storingAttempt ([unsentTopUp] ++ [⟨retriedTopUp.args, 3⟩]) =
      some ⟨retriedTopUp.args, 3⟩ := rfl
  obtain rfl := Option.some.inj (hfirst.symm.trans hretried)
  exact hiff.mpr (by decide)

end ControlPlane
