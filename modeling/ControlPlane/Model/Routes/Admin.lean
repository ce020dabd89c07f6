import ControlPlane.ForStd.JsString
import ControlPlane.Model.Http
import ControlPlane.Model.StoreD1

/-!
# The operator routes that move credit

`src/routes/admin.ts`, after the operator is authenticated and the body is
parsed: opening an account with its signup credit, and topping one up.
-/

namespace ControlPlane

/-- The answer to a new account. -/
structure CreateAccountResponse where
  id : String
  planId : String
  label : Option String
  status : String
  creditMicroUsd : Int
deriving Repr, DecidableEq

/-- POST /admin/accounts. `accountId` and `grantId` are freshly minted. A thrown
    store error is the router's internal error. -/
def handleCreateAccount (raw : Json) (accountId grantId : String) :
    Script Db (Except ApiError CreateAccountResponse) :=
  match raw.strField "plan_id" with
  | none => pure (.error (invalidRequest "\"plan_id\" is required."))
  | some planId =>
    if JsString.trim planId = "" then pure (.error (invalidRequest "\"plan_id\" is required."))
    else do
      let plan ← getPlan (JsString.trim planId)
      match plan with
      | none =>
        pure (.error (invalidRequest ("Plan \"" ++ planId ++
          "\" does not exist. Seed it before creating accounts against it.")))
      | some plan =>
        -- the signup grant is keyed by the account, so it is given once
        let account ← createAccount ⟨accountId, plan.id, raw.strField "label",
          plan.signupCreditMicroUsd, grantId, "signup:" ++ accountId⟩
        match account with
        | .error _ => pure (.error ⟨.internal, "An unexpected error occurred."⟩)
        | .ok account =>
          pure (.ok ⟨account.id, account.planId, account.label, "active", account.creditMicroUsd⟩)

/-- The answer to a top-up. -/
structure GrantCreditResponse where
  accountId : String
  applied : Bool
  creditMicroUsd : Int
  spentMicroUsd : Int
deriving Repr, DecidableEq

/-- The amount and the key a top-up body must carry. -/
def grantCreditBody (raw : Json) : Except ApiError (Int × String) :=
  match raw.intField "micro_usd" with
  | none => .error (invalidRequest
      "\"micro_usd\" must be a positive integer number of micro-USD (1 USD = 1000000).")
  | some microUsd =>
    if microUsd ≤ 0 then .error (invalidRequest
      "\"micro_usd\" must be a positive integer number of micro-USD (1 USD = 1000000).")
    else
      -- a key that is missing is too short
      let key := JsString.trim ((raw.strField "idempotency_key").getD "")
      if JsString.length key < 4 then .error (invalidRequest
        ("\"idempotency_key\" is required (at least 4 characters): it is what makes a retried " ++
          "top-up safe."))
      else .ok (microUsd, key)

/-- POST /admin/accounts/:id/credits. -/
def handleGrantCredit (raw : Json) (accountId grantId : String) :
    Script Db (Except ApiError GrantCreditResponse) :=
  match grantCreditBody raw with
  | .error err => pure (.error err)
  | .ok (microUsd, key) => do
    let account ← getAccount accountId
    match account with
    | none => pure (.error (invalidRequest "That account does not exist."))
    | some account =>
      let result ← grantCredit ⟨grantId, account.id, microUsd, key, raw.strField "note"⟩
      pure (.ok ⟨account.id, result.applied, result.creditMicroUsd, account.spentMicroUsd⟩)

end ControlPlane
