import ControlPlane.Model.Http
import ControlPlane.Model.Media
import ControlPlane.Model.SttSession

/-!
# The handoff to a speech session

`src/stt-handoff.ts`, and the checks `fetch` of `src/stt-session.ts` opens with: the Worker
names, under a HMAC, who a session is for, and the session believes nothing else.
-/

namespace ControlPlane

/-- `SttHandoff` of `src/stt-handoff.ts`. -/
structure HandoffClaims where
  accountId : String
  clientId : String
  planId : String
  requestId : String
  modelId : String
  /-- Unix seconds expiry. -/
  exp : Number
deriving DecidableEq

/-- The text that a handoff signs. -/
def handoffPayload (h : HandoffClaims) : String :=
  h.accountId ++ "\n" ++ h.clientId ++ "\n" ++ h.planId ++ "\n" ++ h.requestId ++ "\n" ++
    h.modelId ++ "\n" ++ h.exp.text

/-- Handoff lifetime: long enough for upgrade + DO accept, short enough to limit replay. -/
def STT_HANDOFF_TTL_SEC : Nat := 60

/-- Fail-closed read of the handoff secret: a short one is none. -/
def requireHandoffSecret (token : Option String) : Option String :=
  (token.map JsString.trim).filter fun s => 16 ≤ JsString.length s

section digests

variable (digests : Media.Digests) (secret : String)

/-- The raw key of `hmacKey(secret)`. -/
def handoffKey : List UInt8 :=
  digests.sha256 (TextEncoder.encode ("prism-stt-handoff-v1:" ++ secret))

/-- The HMAC of a handoff. -/
def handoffTag (h : HandoffClaims) : List UInt8 :=
  digests.hmac (handoffKey digests secret) (TextEncoder.encode (handoffPayload h))

/-- Sign a handoff. -/
def signSttHandoff (h : HandoffClaims) : String := Media.b64url (handoffTag digests secret h)

/-- Verify signature and expiry. -/
def verifySttHandoff (h : HandoffClaims) (signatureB64url : String) (nowSec : Number) : Bool :=
  if !h.exp.isInteger || h.exp.lt nowSec then false
  else
    match Media.b64urlToBytes signatureB64url with
    | none => false
    -- `crypto.subtle.verify` computes the HMAC and compares
    | some sigBytes => handoffTag digests secret h = sigBytes

end digests

/-! ## The request the session gets -/

/-- What a header can hold. -/
structure HeaderValue where
  text : String
  oneLine : '\n' ∉ text.toList
deriving DecidableEq

/-- The white space a header value is stripped of. -/
def isHeaderSpace (c : Char) : Bool := c == ' ' || c == '\t' || c == '\n' || c == '\r'

/-- What `headers.set` makes of a text, `none` where it throws. -/
def HeaderValue.ofText (text : String) : Option HeaderValue :=
  let value := (text.toList.dropWhile isHeaderSpace).rdropWhile isHeaderSpace
  if h : value.all fun c => c.toNat < 0x100 && c != '\n' && c != '\r' && c != '\x00' then
    some ⟨String.ofList value, fun hmem => by
      rw [String.toList_ofList] at hmem
      simpa using List.all_eq_true.mp h _ hmem⟩
  else none

/-- The headers of a handoff, each as `headers.get` answers it. -/
structure HandoffHeaders where
  accountId : Option HeaderValue
  clientId : Option HeaderValue
  planId : Option HeaderValue
  requestId : Option HeaderValue
  modelId : Option HeaderValue
  exp : Option HeaderValue
  sig : Option HeaderValue
  wsProtocol : Option HeaderValue
deriving DecidableEq

/-- What the Worker sends to a fresh session. -/
structure SignedHandoff where
  claims : HandoffClaims
  sig : String
  wsProtocol : Option String
deriving DecidableEq

/-- The headers of a handoff, `none` where one cannot be set. -/
def SignedHandoff.headers (handoff : SignedHandoff) : Option HandoffHeaders := do
  let accountId ← HeaderValue.ofText handoff.claims.accountId
  let clientId ← HeaderValue.ofText handoff.claims.clientId
  let planId ← HeaderValue.ofText handoff.claims.planId
  let requestId ← HeaderValue.ofText handoff.claims.requestId
  let modelId ← HeaderValue.ofText handoff.claims.modelId
  let exp ← HeaderValue.ofText handoff.claims.exp.text
  let sig ← HeaderValue.ofText handoff.sig
  let wsProtocol ← match handoff.wsProtocol with
    | none => some none
    | some protocol => (HeaderValue.ofText protocol).map some
  some ⟨some accountId, some clientId, some planId, some requestId, some modelId, some exp, some sig,
    wsProtocol⟩

/-- `headers.get(name) ?? fallback`. -/
def headerText (value : Option HeaderValue) (fallback : String) : String :=
  (value.map (·.text)).getD fallback

namespace HandoffHeaders

variable (headers : HandoffHeaders)

/-- What the headers claim; `mintedId` is a fresh request id. -/
def claims (mintedId : String) (exp : Number) : HandoffClaims :=
  ⟨headerText headers.accountId "", headerText headers.clientId "", headerText headers.planId "",
    headerText headers.requestId mintedId, headerText headers.modelId FLUX_STT_MODEL, exp⟩

/-- The checks of `fetch`, up to the socket: the handoff it accepts. -/
def accept (digests : Media.Digests) (aigToken : Option String) (mintedId : String)
    (nowSec : Number) : Except ApiError HandoffClaims :=
  let expRaw := headerText headers.exp ""
  let sig := headerText headers.sig ""
  let exp := Number.ofText expRaw
  let claims := headers.claims mintedId exp
  -- a request id that is missing was minted, so it is not asked for
  if claims.accountId = "" ∨ claims.clientId = "" ∨ claims.planId = "" ∨ sig = "" ∨ expRaw = "" then
    .error ⟨.internal, "STT session missing signed handoff headers."⟩
  else if claims.modelId ≠ FLUX_STT_MODEL then
    .error (invalidRequest "Only Deepgram Flux is supported on this door.")
  else
    match requireHandoffSecret aigToken with
    | none => .error ⟨.unavailable, "CF_AIG_TOKEN missing; cannot verify STT handoff."⟩
    | some secret =>
      if !exp.isInteger || exp.le (Number.ofRat 0) then
        .error ⟨.forbidden, "STT session handoff expired or malformed."⟩
      else if !verifySttHandoff digests secret claims sig nowSec then
        .error ⟨.forbidden, "STT session handoff signature invalid or expired."⟩
      else .ok claims

end HandoffHeaders

end ControlPlane
