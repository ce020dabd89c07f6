import ControlPlane.Model.AppleJws
import ControlPlane.Model.StoreD1
import ControlPlane.Model.StoreProducts

/-!
# POST /v1/store/redeem

`src/routes/store.ts`, after the caller is authenticated and the body is parsed.
-/

namespace ControlPlane

/-- The two lab flags of the deployment, absent when unset. -/
structure RedeemEnv where
  storeRedeemTrustDecode : Option String
  storeRedeemAllowSandboxTrust : Option String
deriving Repr, DecidableEq

/-- A flag is on when it reads "true". -/
def flagOn (flag : Option String) : Bool :=
  JsString.toLowerCase (JsString.trim (flag.getD "")) == "true"

/-- Whether every decoded purchase is believed. -/
def trustDecode (env : RedeemEnv) : Bool := flagOn env.storeRedeemTrustDecode

/-- Whether a decoded sandbox purchase is. -/
def allowSandboxTrust (env : RedeemEnv) : Bool := flagOn env.storeRedeemAllowSandboxTrust

/-- On what grounds a purchase was believed. -/
inductive RedeemVerified where
  | jws
  | xcode
  | trustDecode
deriving Repr, DecidableEq

/-- The grounds as they are answered. -/
def RedeemVerified.text : RedeemVerified → String
  | .jws => "jws"
  | .xcode => "xcode"
  | .trustDecode => "trust_decode"

/-- What a body claims to have bought, and on what ground it is believed. -/
structure RedeemClaim where
  transactionId : String
  productId : String
  bundleId : String
  environment : Option String
  verified : RedeemVerified
deriving Repr, DecidableEq

section

variable {Key : Type} (platform : JwsPlatform Key) (env : RedeemEnv) (nowMs : Int)

/-- The first of two spellings of a field, trimmed. -/
def trimmedField (raw : Json) (a b : String) : String :=
  JsString.trim (((raw.strField a).orElse fun _ => raw.strField b).getD "")

/-- The branch of a presented JWS. -/
def redeemSigned (signed : String) : Except ApiError RedeemClaim :=
  match decodeAppleTransactionJws platform signed with
  | none => .error (invalidRequest "signed_transaction is not a valid App Store JWS payload.")
  | some decoded =>
    let claim := RedeemClaim.mk decoded.transactionId decoded.productId decoded.bundleId
      decoded.environment
    match verifyAppleTransactionJws platform signed nowMs with
    | .ok () => .ok (claim .jws)
    | .error reason =>
      -- the JWS did not verify: Xcode first, then the two lab switches
      if isXcodeStoreEnvironment decoded.environment then .ok (claim .xcode)
      else if isSandboxStoreEnvironment decoded.environment && allowSandboxTrust env then
        .ok (claim .trustDecode)
      else if trustDecode env && !isProductionStoreEnvironment decoded.environment then
        .ok (claim .trustDecode)
      -- what is left is refused, Production in words of its own
      else if isProductionStoreEnvironment decoded.environment then
        .error (invalidRequest
          ("Production signed_transaction did not verify against the pinned Apple root (" ++
            reason.text ++ "). Production never accepts trust_decode."))
      else
        .error (invalidRequest
          ("signed_transaction did not verify against the pinned Apple root (" ++ reason.text ++
            "). Sandbox: ensure the StoreKit JWS carries its full Apple chain, or set " ++
            "STORE_REDEEM_ALLOW_SANDBOX_TRUST=true for lab only. " ++
            "Xcode Configuration.storekit needs environment Xcode."))

/-- The branch of explicit fields. -/
def redeemFields (raw : Json) : Except ApiError RedeemClaim :=
  let tid := trimmedField raw "transaction_id" "transactionId"
  let pid := trimmedField raw "product_id" "productId"
  if tid = "" ∨ pid = "" then
    .error (invalidRequest ("\"signed_transaction\" (JWS) is required, or both transaction_id " ++
      "and product_id when STORE_REDEEM_TRUST_DECODE is enabled."))
  else if trustDecode env = false then
    .error (invalidRequest
      "Field-only redeem requires STORE_REDEEM_TRUST_DECODE=true (local/test only).")
  else
    .ok ⟨tid, pid, appleBundleId, some ((raw.strField "environment").getD "Xcode"), .trustDecode⟩

/-- What the body claims, or the refusal. -/
def redeemClaim (raw : Json) : Except ApiError RedeemClaim :=
  let signed := trimmedField raw "signed_transaction" "signedTransaction"
  if 20 < JsString.length signed then redeemSigned platform env nowMs signed
  else redeemFields env raw

/-- The checks every claim goes through: this app's bundle, and a product with credit. -/
def redeemCredit (claim : RedeemClaim) : Except ApiError Int :=
  if claim.bundleId ≠ appleBundleId then
    .error (invalidRequest ("bundleId \"" ++ claim.bundleId ++ "\" is not " ++
      appleBundleId ++ "."))
  else if isKnownStoreProduct claim.productId = false then
    .error (invalidRequest ("Unknown product_id \"" ++ claim.productId ++
      "\". Known packs: credit.5 / .20 / .50."))
  else
    match creditMicroUsdForProduct claim.productId with
    | none => .error (invalidRequest "Product has no credit mapping.")
    | some micro => .ok micro

end

/-- The key of a transaction's grant. -/
def storeIdempotencyKey (transactionId : String) : String := "appstore:" ++ transactionId

/-- The authenticated caller. -/
structure RedeemCaller where
  accountId : String
  clientId : String
deriving Repr, DecidableEq

/-- The grant a claim asks for. -/
def RedeemClaim.grantArgs (claim : RedeemClaim) (caller : RedeemCaller) (grantId : String)
    (micro : Int) : GrantCreditArgs where
  id := grantId
  accountId := caller.accountId
  microUsd := micro
  idempotencyKey := storeIdempotencyKey claim.transactionId
  note := some ("App Store " ++ claim.productId ++ " tx=" ++ claim.transactionId ++ " env=" ++
    claim.environment.getD "?" ++ " client=" ++ caller.clientId ++ " verify=" ++
    claim.verified.text)

/-- The answer to a redeemed purchase. -/
structure RedeemResponse where
  applied : Bool
  transactionId : String
  productId : String
  creditGrantedMicroUsd : Int
  creditMicroUsd : Int
  spentMicroUsd : Int
  environment : Option String
  verified : RedeemVerified
deriving Repr, DecidableEq

/-- The store half of the route: grant, and read the account again. -/
def redeemGrant (claim : RedeemClaim) (caller : RedeemCaller) (account : AccountRow)
    (grantId : String) (micro : Int) : Script Db (Except ApiError RedeemResponse) := do
  let result ← grantCredit (claim.grantArgs caller grantId micro)
  let fresh ← getAccount caller.accountId
  pure (.ok {
    applied := result.applied
    transactionId := claim.transactionId
    productId := claim.productId
    creditGrantedMicroUsd := if result.applied then micro else 0
    creditMicroUsd := result.creditMicroUsd
    spentMicroUsd := (fresh.getD account).spentMicroUsd
    environment := claim.environment
    verified := claim.verified })

/-- `handleStoreRedeem` for an authenticated caller and a parsed body. -/
def handleStoreRedeem {Key : Type} (platform : JwsPlatform Key) (env : RedeemEnv) (nowMs : Int)
    (caller : RedeemCaller) (account : AccountRow) (raw : Json) (grantId : String) :
    Script Db (Except ApiError RedeemResponse) :=
  match redeemClaim platform env nowMs raw with
  | .error err => pure (.error err)
  | .ok claim =>
    match redeemCredit claim with
    | .error err => pure (.error err)
    | .ok micro => redeemGrant claim caller account grantId micro

end ControlPlane
