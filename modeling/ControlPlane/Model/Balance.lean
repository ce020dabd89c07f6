/-!
# The spend gate and the split of a charge

`src/balance.ts`: monthly allowance first, then prepaid credit. The amounts
come out of INTEGER columns, so `Number.isInteger` holds of all of them and the
remaining half of each check is the sign.
-/

namespace ControlPlane

/-- The credit and the allowance of an account, and what is used of each. -/
structure SpendPools where
  creditMicroUsd : Int
  spentMicroUsd : Int
  monthlyIncludedMicroUsd : Int
  allowanceSpentMicroUsd : Int
deriving Repr, DecidableEq

/-- What the gate answers. -/
inductive BalanceDecision where
  | allow (remainingMicroUsd remainingAllowanceMicroUsd remainingCreditMicroUsd : Int)
  | exhausted (creditMicroUsd spentMicroUsd remainingAllowanceMicroUsd : Int)
  | indeterminate (reason : String)
deriving Repr, DecidableEq

/-- How a charge is split. -/
structure ChargeAllocation where
  fromAllowanceMicroUsd : Int
  fromCreditMicroUsd : Int
deriving Repr, DecidableEq

/-- Remaining monthly allowance for the current period, clamped at zero. -/
def remainingAllowanceMicroUsd (monthlyIncluded allowanceSpent : Int) : Int :=
  if monthlyIncluded < 0 then 0
  else if allowanceSpent < 0 then 0
  else max 0 (monthlyIncluded - allowanceSpent)

/-- Clamped remaining prepaid credit. -/
def remainingMicroUsd (credit spent : Int) : Int :=
  max 0 (credit - spent)

/-- The four refusals of `decideBalance` differ in the pool they name. -/
def indeterminateReason (pool : String) (amount : Int) : String :=
  pool ++ " " ++ toString amount ++ " is not a non-negative integer micro-USD"

/-- Decide whether one more request may be spent against the two pools. -/
def decideBalance (pools : SpendPools) : BalanceDecision :=
  if pools.creditMicroUsd < 0 then
    .indeterminate (indeterminateReason "granted credit" pools.creditMicroUsd)
  else if pools.spentMicroUsd < 0 then
    .indeterminate (indeterminateReason "recorded spend" pools.spentMicroUsd)
  else if pools.monthlyIncludedMicroUsd < 0 then
    .indeterminate (indeterminateReason "monthly included" pools.monthlyIncludedMicroUsd)
  else if pools.allowanceSpentMicroUsd < 0 then
    .indeterminate (indeterminateReason "allowance spent" pools.allowanceSpentMicroUsd)
  else
    let remainingAllowance :=
      remainingAllowanceMicroUsd pools.monthlyIncludedMicroUsd pools.allowanceSpentMicroUsd
    let remainingCredit := remainingMicroUsd pools.creditMicroUsd pools.spentMicroUsd
    -- open as long as either pool has anything left
    if remainingAllowance = 0 ∧ pools.spentMicroUsd ≥ pools.creditMicroUsd then
      .exhausted pools.creditMicroUsd pools.spentMicroUsd 0
    else
      .allow (remainingAllowance + remainingCredit) remainingAllowance remainingCredit

/-- Split one metered charge across allowance then credit. -/
def allocateCharge (microUsd monthlyIncluded allowanceSpent : Int) : ChargeAllocation :=
  if microUsd ≤ 0 then ⟨0, 0⟩
  else
    let remainingAllowance := remainingAllowanceMicroUsd monthlyIncluded allowanceSpent
    let fromAllowance := min microUsd remainingAllowance
    ⟨fromAllowance, microUsd - fromAllowance⟩

/-! ## What the gate and the split guarantee -/

/-- An overspent allowance has nothing left, not less than nothing. -/
theorem remainingAllowanceMicroUsd_nonneg (monthlyIncluded allowanceSpent : Int) :
    0 ≤ remainingAllowanceMicroUsd monthlyIncluded allowanceSpent := by
  unfold remainingAllowanceMicroUsd
  split
  · omega
  · split <;> omega

/-- The gate opens exactly when the four amounts are sound and a pool has room. -/
theorem decideBalance_allow_iff (pools : SpendPools) :
    (∃ total allowance credit, decideBalance pools = .allow total allowance credit) ↔
      0 ≤ pools.creditMicroUsd ∧ 0 ≤ pools.spentMicroUsd ∧ 0 ≤ pools.monthlyIncludedMicroUsd ∧
      0 ≤ pools.allowanceSpentMicroUsd ∧
      (pools.allowanceSpentMicroUsd < pools.monthlyIncludedMicroUsd ∨
        pools.spentMicroUsd < pools.creditMicroUsd) := by
  unfold decideBalance remainingAllowanceMicroUsd
  split
  · simp only [reduceCtorEq, exists_false, false_iff]; omega
  split
  · simp only [reduceCtorEq, exists_false, false_iff]; omega
  split
  · simp only [reduceCtorEq, exists_false, false_iff]; omega
  split
  · simp only [reduceCtorEq, exists_false, false_iff]; omega
  simp only [ge_iff_le]
  split
  · simp only [reduceCtorEq, exists_false, false_iff]; omega
  · simp only [BalanceDecision.allow.injEq, exists_and_left, exists_eq', and_true, true_iff]
    omega

/-- What a split is: both parts are non-negative, they add up to a charge that
    is not negative, and credit is touched only once the allowance is used up. -/
theorem allocateCharge_spec (microUsd monthlyIncluded allowanceSpent : Int)
    (h : 0 ≤ microUsd) :
    let split := allocateCharge microUsd monthlyIncluded allowanceSpent
    0 ≤ split.fromAllowanceMicroUsd ∧ 0 ≤ split.fromCreditMicroUsd ∧
    split.fromAllowanceMicroUsd + split.fromCreditMicroUsd = microUsd ∧
    split.fromAllowanceMicroUsd =
      min microUsd (remainingAllowanceMicroUsd monthlyIncluded allowanceSpent) := by
  have hrem := remainingAllowanceMicroUsd_nonneg monthlyIncluded allowanceSpent
  unfold allocateCharge
  split <;> dsimp only <;> omega

end ControlPlane
