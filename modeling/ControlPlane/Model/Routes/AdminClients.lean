import ControlPlane.Model.Auth
import ControlPlane.Model.Clock
import ControlPlane.Model.Plans
import ControlPlane.Model.Routes.Admin

/-!
# The operator routes of plans and clients

`src/routes/admin.ts`: the plans, the enrollment tokens and the revocation of a client key.
A store call that throws is the router's internal error.
-/

namespace ControlPlane

/-! ## Plans -/

/-- `/^[a-z][a-z0-9_-]{0,63}$/`. -/
def isPlanId (id : String) : Bool :=
  match id.toList with
  | [] => false
  | c :: cs => c.isLower && cs.length ≤ 63 &&
      cs.all fun c => c.isLower || c.isDigit || c == '_' || c == '-'

/-- One of the integer fields of a plan. -/
def planInteger (raw : Json) (field : String) : Except ApiError Int :=
  match raw.intField field with
  | none => .error (invalidRequest ("\"" ++ field ++ "\" must be an integer micro-USD or count field."))
  | some value => .ok value

/-- `allowed_tiers` as the text the row holds. -/
def allowedTiersCsv (raw : Json) : Except ApiError String :=
  match raw.field "allowed_tiers" with
  | some (.arr items) =>
    match items.mapM fun | .str tier => some tier | _ => none with
    | none => .error (invalidRequest
        "\"allowed_tiers\" must be an array of tier name strings (standard, premium).")
    | some tiers => .ok (",".intercalate tiers)
  | some (.str csv) => .ok csv
  | _ => .error (invalidRequest ("\"allowed_tiers\" is required (array or comma-separated string " ++
      "of standard, premium)."))

/-- A tier as it is stored. -/
def ModelTier.text : ModelTier → String
  | .standard => "standard"
  | .premium => "premium"

/-- The id of a plan. -/
def planId (raw : Json) : Except ApiError String :=
  match (raw.strField "id").filter isPlanId with
  | none => .error (invalidRequest
      "\"id\" must be a lowercase slug (letter first, then letters/digits/_/-, max 64).")
  | some id => .ok id

/-- The name of a plan. -/
def planName (raw : Json) : Except ApiError String :=
  match (raw.strField "name").filter fun name => JsString.trim name ≠ "" with
  | none => .error (invalidRequest "\"name\" is required.")
  | some name => .ok name

/-- The row a plan body asks for, with its tiers in canonical form. -/
def planRowOf (raw : Json) : Except ApiError PlanRow := do
  let id ← planId raw
  let name ← planName raw
  let signupCredit ← planInteger raw "signup_credit_micro_usd"
  let monthlyIncluded ← planInteger raw "monthly_included_micro_usd"
  let requestsPerMinute ← planInteger raw "requests_per_minute"
  let maxOutputTokens ← planInteger raw "max_output_tokens"
  -- unknown tiers are dropped, but one known tier must remain
  let tiers := parseTiers (← allowedTiersCsv raw)
  if tiers = [] then
    .error (invalidRequest "\"allowed_tiers\" must include at least one known tier (standard, premium).")
  else
    .ok ⟨id, JsString.trim name, signupCredit, monthlyIncluded, requestsPerMinute, maxOutputTokens,
      ",".intercalate (tiers.map ModelTier.text)⟩

/-- The answer to a stored plan. -/
structure UpsertPlanResponse where
  plan : Plan
  created : Bool
deriving Repr, DecidableEq

/-- POST /admin/plans: a row the request path would refuse is not written. -/
def handleUpsertPlan (raw : Json) : Script AccessDb (Except ApiError UpsertPlanResponse) :=
  match planRowOf raw with
  | .error err => pure (.error err)
  | .ok row =>
    -- the row is read back before it is stored
    match planFromRow row with
    | .error reason => pure (.error (invalidRequest reason))
    | .ok plan => do
      let existed ← onMoney (getPlan row.id)
      putPlan row
      pure (.ok ⟨plan, existed.isNone⟩)

/-! ## Enrollment tokens -/

/-- Minutes. -/
def DEFAULT_TTL_MINUTES : Int := 60

/-- A week. -/
def MAX_TTL_MINUTES : Int := 60 * 24 * 7

/-- The lifetime of a token: absent is the default, and a long one is cut. -/
def ttlMinutes (raw : Json) : Except ApiError Int :=
  if (raw.field "ttl_minutes").isNone then .ok DEFAULT_TTL_MINUTES
  else
    match (raw.intField "ttl_minutes").filter (1 ≤ ·) with
    | none => .error (invalidRequest "\"ttl_minutes\" must be a positive integer.")
    | some ttl => .ok (min ttl MAX_TTL_MINUTES)

/-- The answer to a new enrollment token, with the token. -/
structure CreateEnrollmentResponse where
  enrollmentToken : String
  accountId : String
  expiresInMinutes : Int
deriving Repr, DecidableEq

/-- POST /admin/enrollments, with the token it mints. -/
def handleCreateEnrollment (sha256 : List UInt8 → List UInt8) (raw : Json) (nowMs : Int)
    (token : String) : Script AccessDb (Except ApiError CreateEnrollmentResponse) :=
  match (raw.strField "account_id").filter fun id => JsString.trim id ≠ "" with
  | none => pure (.error (invalidRequest "\"account_id\" is required."))
  | some accountId =>
    match ttlMinutes raw with
    | .error err => pure (.error err)
    | .ok ttl => do
      let account ← onMoney (getAccount (JsString.trim accountId))
      match account with
      | none => pure (.error (invalidRequest "That account does not exist."))
      | some account =>
        -- only the hash of the token is stored
        let created ← createEnrollment ⟨sha256Hex sha256 token, account.id,
          toISOString (nowMs + ttl * 60000), raw.strField "note"⟩
        match created with
        | .error _ => pure (.error ⟨.internal, "An unexpected error occurred."⟩)
        | .ok () => pure (.ok ⟨token, account.id, ttl⟩)

/-! ## Revocation -/

/-- The answer to a revocation. -/
structure RevokeClientResponse where
  clientId : String
  revoked : Bool
deriving Repr, DecidableEq

/-- POST /admin/clients/:id/revoke. -/
def handleRevokeClient (clientId : String) : Script AccessDb RevokeClientResponse := do
  let revoked ← revokeClient clientId
  pure ⟨clientId, revoked⟩

end ControlPlane
