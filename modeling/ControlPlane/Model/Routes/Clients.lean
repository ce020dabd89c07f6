import ControlPlane.ForStd.JsString
import ControlPlane.Model.Http
import ControlPlane.Model.StoreClients

/-!
# Device enrollment

`src/routes/clients.ts`: `POST /v1/clients`, which trades a one-time token for a client
key. The request's body has been read, and the key it may be answered with minted; a
store call that throws is the router's internal error.
-/

namespace ControlPlane

/-- The fields of an enrollment that are read. -/
def ENROLL_FIELDS : List String := ["enrollment_token", "label", "platform"]

/-- The platforms a client can name. -/
def ALLOWED_PLATFORMS : List String := ["ios", "android", "other"]

/-- The cap on a label. -/
def MAX_LABEL_CHARS : Nat := 64

/-- A validated enrollment. -/
structure EnrollBody where
  token : String
  label : Option String
  platform : Option String
deriving Repr, DecidableEq

/-- `label` when it is there: a text of at most `MAX_LABEL_CHARS`. -/
def labelAllowed : Option Json → Bool
  | none => true
  | some (.str label) => JsString.length label ≤ MAX_LABEL_CHARS
  | some _ => false

/-- `platform` when it is there: one of `ALLOWED_PLATFORMS`. -/
def platformAllowed : Option Json → Bool
  | none => true
  | some (.str platform) => ALLOWED_PLATFORMS.contains platform
  | some _ => false

/-- Validate the body of an enrollment. -/
def parseEnrollBody (body : Json) : Except String EnrollBody :=
  match body with
  | .obj fields =>
    match fields.find? fun f => !ENROLL_FIELDS.contains f.1 with
    | some f => .error ("Unknown field \"" ++ f.1 ++ "\".")
    | none =>
      match (Json.obj fields).strField "enrollment_token" with
      | none => .error "\"enrollment_token\" is required."
      | some token =>
        -- a token that is too short is reported as missing
        if JsString.length (JsString.trim token) < 8 then
          .error "\"enrollment_token\" is required."
        else if labelAllowed ((Json.obj fields).field "label") = false then
          .error "\"label\" must be a string of at most 64 characters."
        else if platformAllowed ((Json.obj fields).field "platform") = false then
          .error "\"platform\" must be one of ios, android, other."
        else
          .ok ⟨JsString.trim token, (Json.obj fields).strField "label",
            (Json.obj fields).strField "platform"⟩
  | _ => .error "Request body must be a JSON object."

/-- What `mintClientKey` mints. -/
structure MintedKey where
  clientId : String
  keyId : String
  key : String
  secretHash : String
deriving Repr, DecidableEq

/-- One enrollment request, as far as it does not depend on the store. -/
structure EnrollRequest where
  ip : String
  /-- What `readJsonBody` makes of the body. -/
  body : Except ApiError Json
  minted : MintedKey

/-- The answer to an enrollment, with the key. -/
structure EnrollResponse where
  clientId : String
  key : String
  accountId : String
  planId : String
  status : String
deriving Repr, DecidableEq

/-- How an enrollment ends. -/
inductive EnrollAnswer where
  | error (err : ApiError)
  | rateLimited (err : ApiError) (retryAfterSeconds : Int)
  | enrolled (response : EnrollResponse)
deriving Repr, DecidableEq

section handleEnroll

variable (sha256Hex : String → String) (req : EnrollRequest)

/-- The client a redeemed token is traded for. -/
def EnrollRequest.newClient (body : EnrollBody) (account : AccountRow) : NewClient :=
  ⟨req.minted.clientId, account.id, req.minted.keyId, req.minted.secretHash, body.label,
    body.platform⟩

/-- The answer to a client that was created. -/
def EnrollRequest.enrolled (account : AccountRow) (client : ClientRow) : EnrollAnswer :=
  .enrolled ⟨client.id, req.minted.key, account.id, account.planId,
    if account.suspendedAt.isSome then "suspended" else "active"⟩

/-- The answer from what `createClient` returned. -/
def EnrollRequest.answer (account : AccountRow) : Except String ClientRow → EnrollAnswer
  | .error _ => .error ⟨.internal, "An unexpected error occurred."⟩
  | .ok client => req.enrolled account client

/-- The checks on the account of a redeemed token, and the client. The token stays
    consumed whatever fails. -/
def EnrollRequest.withAccount (body : EnrollBody) (account : Option AccountRow) :
    Script IdentityDb EnrollAnswer :=
  match account with
  | none => pure (.error ⟨.unavailable,
      "That enrollment token points at an account that does not exist."⟩)
  | some account =>
    if account.suspendedAt.isSome then
      pure (.error ⟨.forbidden, "That account is suspended."⟩)
    else do
      -- the token is spent by now, whatever the insert does
      let client ← createClient (req.newClient body account)
      pure (req.answer account client)

/-- The rest of the route from what `consumeEnrollment` returned. -/
def EnrollRequest.redeemed (body : EnrollBody) (redeemed : Option String) :
    Script IdentityDb EnrollAnswer :=
  match redeemed with
  | none => pure (.error ⟨.forbidden,
      "That enrollment token is not valid. Tokens are single-use and expire."⟩)
  | some accountId => do
    let account ← getIdentityAccount accountId
    req.withAccount body account

/-- The route once its rate limit let it through. -/
def EnrollRequest.admitted : Script IdentityDb EnrollAnswer :=
  match req.body with
  | .error err => pure (.error err)
  | .ok value =>
    match parseEnrollBody value with
    | .error message => pure (.error (invalidRequest message))
    | .ok body => do
      -- redeemed before the account is looked at
      let account ← consumeEnrollment (sha256Hex body.token) req.minted.clientId
      req.redeemed body account

/-- `handleEnroll`. -/
def handleEnroll : Script IdentityDb EnrollAnswer := do
  let now ← nowEpochSeconds
  let rate ← onRateBuckets (checkRateLimit now (enrollBucket req.ip) ENROLL_LIMIT
    RATE_WINDOW_SECONDS)
  if rate.allowed then req.admitted sha256Hex
  else pure (.rateLimited ⟨.rateLimited, "Too many enrollment attempts from this network."⟩
    rate.retryAfterSeconds)

end handleEnroll

end ControlPlane
