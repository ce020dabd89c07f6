import ControlPlane.Model.Crypto
import ControlPlane.Model.Routes.Clients
import ControlPlane.Model.StoreAccess

/-!
# Client-key identity

`src/auth.ts`, and the mapping of its failures in `src/routes/shared.ts`: the bearer of a
request, the key in it, and the caller the key resolves to.
-/

namespace ControlPlane

/-! ## The key format -/

/-- What every client key starts with. -/
def KEY_PREFIX : String := "pcp"

/-- `/^[0-9a-f]{16}$/`. -/
def isKeyId (cs : List Char) : Bool := cs.length == 16 && cs.all Media.isHexDigit

/-- `/^[A-Za-z0-9_-]{43}$/`. -/
def isSecret (cs : List Char) : Bool := cs.length == 43 && cs.all Media.isIdChar

/-- The text before and after the first `c`, by `indexOf` and `slice`. -/
def splitFirst (c : Char) : List Char → Option (List Char × List Char)
  | [] => none
  | d :: ds =>
    if d = c then some ([], ds) else (splitFirst c ds).map fun p => (d :: p.1, p.2)

/-- The two parts of a client key. -/
structure ParsedKey where
  keyId : String
  secret : String
deriving Repr, DecidableEq

/-- Parse a bearer value. The key id ends at the second underscore; the secret may hold more. -/
def parseClientKey (raw : String) : Option ParsedKey :=
  match splitFirst '_' raw.toList with
  | none => none
  | some (first, rest) =>
    if first ≠ KEY_PREFIX.toList then none
    else
      match splitFirst '_' rest with
      | none => none
      | some (keyId, secret) =>
        -- the secret may hold separators of its own: it is all of the rest
        if !isKeyId keyId || !isSecret secret then none
        else some ⟨String.ofList keyId, String.ofList secret⟩

/-- A client key of its parts. -/
def formatClientKey (keyId secret : String) : String := KEY_PREFIX ++ "_" ++ keyId ++ "_" ++ secret

/-- A character `.` of a regular expression does not match. -/
def isLineTerminator (c : Char) : Bool :=
  c == '\n' || c == '\r' || c == '\u2028' || c == '\u2029'

/-- The bearer in the `Authorization` header: `/^bearer\s+(.+)$/i` on the trimmed value. -/
def bearerFromRequest (authorization : Option String) : Option String :=
  match authorization with
  | none => none
  | some header =>
    let text := (JsString.trim header).toList
    if (text.take 6).map Char.toLower ≠ "bearer".toList then none
    else
      let rest := text.drop 6
      let value := rest.dropWhile JsString.isTrimmed
      -- at least one blank behind the scheme, and a value of one line
      if value.length = rest.length ∨ value = [] ∨ value.any isLineTerminator then none
      else some (JsString.trim (String.ofList value))

/-! ## The caller -/

/-- Who a request was authenticated as. -/
structure Caller where
  client : ClientRow
  account : AccountRow
  plan : PlanRow
deriving DecidableEq

/-- Why a caller did not resolve. -/
inductive ResolveFailure where
  | unauthenticated
  | revoked
  | suspended
  | misconfigured (detail : String)
deriving Repr, DecidableEq

section resolveClient

variable (sha256 : List UInt8 → List UInt8)

/-- The plan of an account, and with it the caller. -/
def resolvePlan (client : ClientRow) (account : AccountRow) :
    Script AccessDb (Except ResolveFailure Caller) := do
  let plan ← onMoney (getPlan account.planId)
  match plan with
  | none => pure (.error (.misconfigured ("account " ++ account.id ++ " references plan " ++
      account.planId ++ ", which does not exist")))
  | some plan => pure (.ok ⟨client, account, plan⟩)

/-- The account of a client whose secret was presented. -/
def resolveAccount (client : ClientRow) : Script AccessDb (Except ResolveFailure Caller) := do
  let account ← onMoney (getAccount client.accountId)
  match account with
  | none => pure (.error (.misconfigured ("client " ++ client.id ++ " references account " ++
      client.accountId ++ ", which does not exist")))
  | some account =>
    if account.suspendedAt.isSome then pure (.error .suspended) else resolvePlan client account

/-- The checks on the client a key id selects. Revocation is looked at after the secret. -/
def checkClient (secret : String) (client : Option ClientRow) :
    Script AccessDb (Except ResolveFailure Caller) :=
  match client with
  | none => pure (.error .unauthenticated)
  | some client =>
    -- the key is compared before it is told whether it was revoked
    if !constantTimeEqual (sha256Hex sha256 secret) client.secretHash then
      pure (.error .unauthenticated)
    else if client.revokedAt.isSome then pure (.error .revoked)
    else resolveAccount client

/-- `resolveClient`, of the `Authorization` header. -/
def resolveClient (authorization : Option String) :
    Script AccessDb (Except ResolveFailure Caller) :=
  match (bearerFromRequest authorization).bind parseClientKey with
  | none => pure (.error .unauthenticated)
  | some key => do
    let client ← getClientByKeyId key.keyId
    checkClient sha256 key.secret client

end resolveClient

/-- `authFailureResponse`. -/
def ResolveFailure.response : ResolveFailure → ApiError
  | .unauthenticated =>
    ⟨.unauthenticated, "A valid client key is required in the Authorization header."⟩
  | .revoked => ⟨.clientRevoked, "This client key has been revoked. Delete the stored key and " ++
      "enroll again; retrying will not help."⟩
  | .suspended => ⟨.forbidden, "This account is suspended."⟩
  | .misconfigured _ => ⟨.unavailable, "This client resolves to an account or plan that is not " ++
      "configured. The request was refused rather than served unmetered."⟩

/-- `requireCaller`: the caller, or the refusal. The last-seen stamp is no column here. -/
def requireCaller (sha256 : List UInt8 → List UInt8) (authorization : Option String) :
    Script AccessDb (Except ApiError Caller) := do
  let resolved ← resolveClient sha256 authorization
  pure (resolved.mapError ResolveFailure.response)

/-! ## Minting -/

/-- The random bytes of one key. -/
structure KeyBytes where
  clientId : Vector UInt8 6
  keyId : Vector UInt8 8
  secret : Vector UInt8 32
deriving DecidableEq

/-- The key the client is answered, once. -/
def KeyBytes.clientKey (random : KeyBytes) : String :=
  formatClientKey (newKeyId random.keyId) (randomSecret random.secret)

/-- A new client id and key. Of the secret the hash is kept. -/
def mintClientKey (sha256 : List UInt8 → List UInt8) (random : KeyBytes) : MintedKey :=
  ⟨newId "cli" random.clientId, newKeyId random.keyId, random.clientKey,
    sha256Hex sha256 (randomSecret random.secret)⟩

end ControlPlane
