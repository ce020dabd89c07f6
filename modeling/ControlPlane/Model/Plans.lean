import ControlPlane.ForStd.JsString
import ControlPlane.Model.Store

/-!
# Plan entitlements

`src/plans.ts`: a stored plan row becomes a usable plan, or is refused. The
numbers come out of INTEGER columns, so the integer half of each check holds.
-/

namespace ControlPlane

/-- The tiers of models a plan can allow. -/
inductive ModelTier where
  | standard
  | premium
deriving Repr, DecidableEq

/-- A validated plan. -/
structure Plan where
  id : String
  name : String
  signupCreditMicroUsd : Int
  monthlyIncludedMicroUsd : Int
  requestsPerMinute : Int
  maxOutputTokens : Int
  allowedTiers : List ModelTier
deriving Repr, DecidableEq

/-- The known tier a name stands for, after trimming and lower-casing. -/
def knownTier (part : String) : Option ModelTier :=
  let name := JsString.toLowerCase (JsString.trim part)
  if name = "standard" then some .standard
  else if name = "premium" then some .premium
  else none

/-- Parse `allowed_tiers`. An unrecognised name is dropped. -/
def parseTiers (raw : String) : List ModelTier :=
  (JsString.split raw ',').filterMap knownTier

/-- Validate a stored plan row, or refuse it with the reason. -/
def planFromRow (row : PlanRow) : Except String Plan :=
  let subject := "plan \"" ++ row.id ++ "\" has "
  if row.signupCreditMicroUsd < 0 then
    .error (subject ++ "signup_credit_micro_usd " ++ toString row.signupCreditMicroUsd ++
      ", which is not a non-negative integer. Refusing rather than coercing it: a malformed " ++
      "grant and a chosen grant of zero must not be the same outcome")
  else if row.monthlyIncludedMicroUsd < 0 then
    .error (subject ++ "monthly_included_micro_usd " ++ toString row.monthlyIncludedMicroUsd ++
      ", which is not a non-negative integer. Refusing rather than inventing an allowance")
  else if row.requestsPerMinute ≤ 0 then
    .error (subject ++ "requests_per_minute " ++ toString row.requestsPerMinute ++
      ", which is not a positive integer")
  else if row.maxOutputTokens ≤ 0 then
    .error (subject ++ "max_output_tokens " ++ toString row.maxOutputTokens ++
      ", which is not a positive integer")
  else
    .ok ⟨row.id, row.name, row.signupCreditMicroUsd, row.monthlyIncludedMicroUsd,
      row.requestsPerMinute, row.maxOutputTokens, parseTiers row.allowedTiers⟩

/-- What an accepted plan is: the numbers of its row, each in the range its use
    relies on. -/
theorem planFromRow_ok {row : PlanRow} {plan : Plan} (h : planFromRow row = .ok plan) :
    plan.monthlyIncludedMicroUsd = row.monthlyIncludedMicroUsd ∧
    plan.signupCreditMicroUsd = row.signupCreditMicroUsd ∧
    0 ≤ plan.signupCreditMicroUsd ∧ 0 ≤ plan.monthlyIncludedMicroUsd ∧
    0 < plan.requestsPerMinute ∧ 0 < plan.maxOutputTokens := by
  unfold planFromRow at h
  dsimp only at h
  split at h
  · cases h
  split at h
  · cases h
  split at h
  · cases h
  split at h
  · cases h
  · obtain rfl := Except.ok.inj h
    dsimp only
    omega

/-- Whether a plan allows a tier. -/
def entitlesTier (plan : Plan) (tier : ModelTier) : Bool := plan.allowedTiers.contains tier

/-- The effective output cap of one request: the smallest of what the client asked for,
    what the plan allows and what the model advertises. It is clamped, not refused. -/
def effectiveMaxTokens (requested : Option Int) (planMax : Int) (modelMax : Option Int) : Int :=
  let ceiling := match modelMax with
    | none => planMax
    | some modelMax => min planMax modelMax
  match requested with
  | none => ceiling
  -- asking for less than one token gives one
  | some requested => max 1 (min requested ceiling)

/-- The plan's number bounds every request. -/
theorem effectiveMaxTokens_le (requested modelMax : Option Int) {planMax : Int} (h : 0 < planMax) :
    effectiveMaxTokens requested planMax modelMax ≤ planMax := by
  unfold effectiveMaxTokens
  cases modelMax <;> cases requested <;> dsimp only <;> omega

end ControlPlane
