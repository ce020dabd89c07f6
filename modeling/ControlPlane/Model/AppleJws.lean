import ControlPlane.ForStd.JsString
import ControlPlane.Model.Http

/-!
# App Store signed transactions

`src/apple-jws.ts`: decoding a compact JWS without verifying it, and verifying it
against the pinned Apple root. What the module calls and does not define is a
parameter: the platform's base64 and JSON readers, and the certificate reader and
ECDSA checks of `src/x509.ts`.
-/

namespace ControlPlane

/-- The curves of the certificates. -/
inductive EcCurve where
  | p256
  | p384
deriving Repr, DecidableEq

/-- What the chain check reads of a certificate; `Key` is the rest of it, which
    only the signature checks look at. -/
structure ParsedCertificate (Key : Type) where
  isCa : Bool
  extensionOids : List String
  curve : EcCurve
  notBeforeMs : Int
  notAfterMs : Int
  key : Key

/-- Bytes. -/
abbrev Bytes := List UInt8

/-- The readers and checks the module calls. -/
structure JwsPlatform (Key : Type) where
  /-- `atob` on text of the base64 alphabet. -/
  atob : String → Option Bytes
  /-- `JSON.parse(new TextDecoder().decode(bytes))`. -/
  parseJson : Bytes → Option Json
  /-- UTF-8 of a text. -/
  encodeText : String → Bytes
  parseCertificate : Bytes → Option (ParsedCertificate Key)
  verifyCertificateSignedBy : ParsedCertificate Key → ParsedCertificate Key → Bool
  derEcdsaToP1363 : Bytes → Nat → Option Bytes
  /-- `importEcPublicKey` succeeds on the certificate's key. -/
  importsKey : ParsedCertificate Key → Bool
  /-- `verifyEcdsa` with the certificate's key and SHA-256, on a raw signature and data. -/
  verifyEcdsa : ParsedCertificate Key → Bytes → Bytes → Bool
  /-- The pinned root's DER, decoded. -/
  pinnedRootDer : Option Bytes

/-- Every way the chain check can refuse. -/
inductive AppleJwsRefusal where
  | malformedJws
  | unsupportedAlg
  | missingX5c
  | x5cTooShort
  | leafParseFailed
  | intermediateParseFailed
  | pinnedAnchorUnusable
  | intermediateNotCa
  | intermediateMissingAppleWwdrMarker
  | leafMissingAppStoreMarker
  | intermediateNotIssuedByPinnedRoot
  | leafNotIssuedByIntermediate
  | certificateOutsideValidityWindow
  | leafKeyNotP256
  | signatureMalformed
  | signatureInvalid
deriving Repr, DecidableEq

/-- The refusal as the text the route quotes. -/
def AppleJwsRefusal.text : AppleJwsRefusal → String
  | .malformedJws => "malformed_jws"
  | .unsupportedAlg => "unsupported_alg"
  | .missingX5c => "missing_x5c"
  | .x5cTooShort => "x5c_too_short"
  | .leafParseFailed => "leaf_parse_failed"
  | .intermediateParseFailed => "intermediate_parse_failed"
  | .pinnedAnchorUnusable => "pinned_anchor_unusable"
  | .intermediateNotCa => "intermediate_not_ca"
  | .intermediateMissingAppleWwdrMarker => "intermediate_missing_apple_wwdr_marker"
  | .leafMissingAppStoreMarker => "leaf_missing_app_store_marker"
  | .intermediateNotIssuedByPinnedRoot => "intermediate_not_issued_by_pinned_root"
  | .leafNotIssuedByIntermediate => "leaf_not_issued_by_intermediate"
  | .certificateOutsideValidityWindow => "certificate_outside_validity_window"
  | .leafKeyNotP256 => "leaf_key_not_p256"
  | .signatureMalformed => "signature_malformed"
  | .signatureInvalid => "signature_invalid"

/-- Verified, or why not. -/
abbrev AppleJwsVerdict := Except AppleJwsRefusal Unit

/-! ## Base64 -/

/-- `[A-Za-z0-9]`. -/
def isAsciiAlphanumeric (c : Char) : Bool :=
  ('A' ≤ c && c ≤ 'Z') || ('a' ≤ c && c ≤ 'z') || ('0' ≤ c && c ≤ '9')

/-- `/^[A-Za-z0-9_-]*$/`. -/
def isBase64Url (cs : List Char) : Bool :=
  cs.all fun c => isAsciiAlphanumeric c || c == '_' || c == '-'

/-- `/^[A-Za-z0-9+/]*={0,2}$/`. -/
def isBase64Std (cs : List Char) : Bool :=
  let padding := cs.reverse.takeWhile (· == '=')
  padding.length ≤ 2 &&
    (cs.take (cs.length - padding.length)).all fun c =>
      isAsciiAlphanumeric c || c == '+' || c == '/'

section Jws

variable {Key : Type} (platform : JwsPlatform Key)

/-- `b64ToBytes(s, true)`: the URL alphabet, padded to a multiple of four. -/
def b64urlToBytes (s : String) : Option Bytes :=
  let cs := s.toList
  if isBase64Url cs then
    let std := cs.map fun c => if c = '-' then '+' else if c = '_' then '/' else c
    let rem := std.length % 4
    -- no number of bytes has a text of this length
    if rem = 1 then none
    else if rem = 0 then platform.atob (String.ofList std)
    else platform.atob (String.ofList (std ++ List.replicate (4 - rem) '='))
  else none

/-- `b64ToBytes(s, false)`. -/
def b64stdToBytes (s : String) : Option Bytes :=
  if isBase64Std s.toList then platform.atob s else none

/-- A segment that decodes to a JSON object. -/
def b64urlToJson (s : String) : Option Json :=
  match b64urlToBytes platform s with
  | none => none
  | some bytes =>
    match platform.parseJson bytes with
    | some (.obj fields) => some (.obj fields)
    | _ => none

/-! ## Decoding -/

/-- The claims a redeem uses. -/
structure AppleTransactionPayload where
  transactionId : String
  productId : String
  bundleId : String
  environment : Option String
deriving Repr, DecidableEq

/-- Decode a compact JWS without verifying anything. An empty id is no id. -/
def decodeAppleTransactionJws (jws : String) : Option AppleTransactionPayload :=
  match JsString.split jws '.' with
  | [_, payloadText, _] =>
    match b64urlToJson platform payloadText with
    | none => none
    | some payload =>
      -- either spelling of a field
      let str := fun a b => (payload.strField a).orElse fun _ => payload.strField b
      match str "transactionId" "transaction_id", str "productId" "product_id",
          str "bundleId" "bundle_id" with
      | some transactionId, some productId, some bundleId =>
        if transactionId = "" ∨ productId = "" ∨ bundleId = "" then none
        else some ⟨transactionId, productId, bundleId, payload.strField "environment"⟩
      | _, _, _ => none
  | _ => none

/-! ## Verifying -/

/-- 1.2.840.113635.100.6.11.1 -/
def appleAppStoreLeafMarkerOid : String := "060a2a864886f76364060b01"

/-- 1.2.840.113635.100.6.2.1 -/
def appleWwdrIntermediateMarkerOid : String := "060a2a864886f76364060201"

/-- The instant lies within the certificate's validity. -/
def certValidAt (cert : ParsedCertificate Key) (nowMs : Int) : Bool :=
  cert.notBeforeMs ≤ nowMs && nowMs ≤ cert.notAfterMs

/-- Validate leaf and intermediate against a trust anchor, applying Apple's policy. -/
def verifyAppleCertChain (leafDer intermediateDer : Bytes) (anchor : ParsedCertificate Key)
    (nowMs : Int) : Except AppleJwsRefusal (ParsedCertificate Key) :=
  match platform.parseCertificate leafDer with
  | none => .error .leafParseFailed
  | some leaf =>
    match platform.parseCertificate intermediateDer with
    | none => .error .intermediateParseFailed
    | some intermediate =>
      -- what the certificates are, then who signed them, then when they are valid
      if intermediate.isCa = false then .error .intermediateNotCa
      else if intermediate.extensionOids.contains appleWwdrIntermediateMarkerOid = false then
        .error .intermediateMissingAppleWwdrMarker
      else if leaf.extensionOids.contains appleAppStoreLeafMarkerOid = false then
        .error .leafMissingAppStoreMarker
      else if platform.verifyCertificateSignedBy intermediate anchor = false then
        .error .intermediateNotIssuedByPinnedRoot
      else if platform.verifyCertificateSignedBy leaf intermediate = false then
        .error .leafNotIssuedByIntermediate
      else if [leaf, intermediate, anchor].all (certValidAt · nowMs) = false then
        .error .certificateOutsideValidityWindow
      else .ok leaf

/-- The signature over "<header>.<payload>" with a chain-validated leaf: raw
    64 bytes, or DER converted to them. -/
def verifyJwsSignatureWithLeaf (header payload signature : String)
    (leaf : ParsedCertificate Key) : AppleJwsVerdict :=
  if leaf.curve ≠ .p256 then .error .leafKeyNotP256
  else
    match b64urlToBytes platform signature with
    | none => .error .signatureMalformed
    | some sig =>
      -- 64 bytes are the two numbers as JOSE writes them, anything else is DER
      match if sig.length = 64 then some sig else platform.derEcdsaToP1363 sig 32 with
      | none => .error .signatureMalformed
      | some raw =>
        if platform.importsKey leaf = false then .error .signatureMalformed
        else if platform.verifyEcdsa leaf raw (platform.encodeText (header ++ "." ++ payload)) then
          .ok ()
        else .error .signatureInvalid

/-- Header, chain and signature against a trust anchor. -/
def verifyAppleTransactionJwsAgainstAnchor (jws : String) (anchor : ParsedCertificate Key)
    (nowMs : Int) : AppleJwsVerdict :=
  match JsString.split jws '.' with
  | [headerText, payloadText, signatureText] =>
    match b64urlToJson platform headerText with
    | none => .error .malformedJws
    | some header =>
      if header.strField "alg" ≠ some "ES256" then .error .unsupportedAlg
      else
        match header.field "x5c" with
        | some (.arr (.str leafText :: .str intermediateText :: _)) =>
          match b64stdToBytes platform leafText with
          | none => .error .leafParseFailed
          | some leafDer =>
            match b64stdToBytes platform intermediateText with
            | none => .error .intermediateParseFailed
            | some intermediateDer =>
              match verifyAppleCertChain platform leafDer intermediateDer anchor nowMs with
              | .error reason => .error reason
              | .ok leaf =>
                verifyJwsSignatureWithLeaf platform headerText payloadText signatureText leaf
        -- fewer than two entries, or one of the first two is not a text
        | some (.arr _) => .error .x5cTooShort
        | _ => .error .missingX5c
  | _ => .error .malformedJws

/-- The production entry point: the pinned root is the only anchor. -/
def verifyAppleTransactionJws (jws : String) (nowMs : Int) : AppleJwsVerdict :=
  match platform.pinnedRootDer.bind platform.parseCertificate with
  | none => .error .pinnedAnchorUnusable
  | some anchor => verifyAppleTransactionJwsAgainstAnchor platform jws anchor nowMs

end Jws

/-! ## Environments -/

/-- `env.toLowerCase()` of a claim that is there and not empty. -/
def lowerEnvironment (environment : Option String) : Option String :=
  match environment with
  | none => none
  | some e => if e = "" then none else some (JsString.toLowerCase e)

/-- The environments of a local test. -/
def isXcodeStoreEnvironment (environment : Option String) : Bool :=
  match lowerEnvironment environment with
  | none => false
  | some e => e == "xcode" || e == "localtesting" || e == "xcode.storekit"

/-- The environment of real purchases. -/
def isProductionStoreEnvironment (environment : Option String) : Bool :=
  lowerEnvironment environment == some "production"

/-- The environment of test purchases. -/
def isSandboxStoreEnvironment (environment : Option String) : Bool :=
  lowerEnvironment environment == some "sandbox"

end ControlPlane
