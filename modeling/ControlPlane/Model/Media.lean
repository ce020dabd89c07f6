import ControlPlane.ForStd.Base64
import ControlPlane.ForStd.NumberText
import ControlPlane.ForStd.TextDecoder
import Mathlib.Data.List.DropRight

/-!
# Signed media tokens

`src/media.ts`: the keys under which results are stored, and the tokens that let a provider
write an object or a client read it. The digest functions of the platform are a parameter;
a HMAC is verified by computing it again.
-/

namespace ControlPlane.Media

/-- SHA-256, and HMAC with it of a key and a message. -/
structure Digests where
  sha256 : List UInt8 → List UInt8
  hmac : List UInt8 → List UInt8 → List UInt8

/-- Seconds: video gen can take several minutes. -/
def UPLOAD_TTL_SEC : Nat := 20 * 60

/-- How long a download link is good for. -/
def DOWNLOAD_TTL_SEC : Nat := 24 * 60 * 60

/-! ## Base64url -/

/-- `b64url(buf)`. -/
def b64url (bytes : List UInt8) : String :=
  let text := (Base64.btoa bytes).toList.map fun c =>
    if c = '+' then '-' else if c = '/' then '_' else c
  String.ofList (text.rdropWhile (· == '='))

/-- `b64urlToBytes(s)`, `none` where `atob` throws. -/
def b64urlToBytes (s : String) : Option (List UInt8) :=
  let excess := JsString.length s % 4
  let pad := if excess = 0 then [] else List.replicate (4 - excess) '='
  let b64 := s.toList.map fun c => if c = '-' then '+' else if c = '_' then '/' else c
  Base64.atob (String.ofList (b64 ++ pad))

/-- A text in base64url. -/
def b64urlUtf8 (s : String) : String := b64url (TextEncoder.encode s)

/-- And back. -/
def utf8FromB64url (s : String) : Option String := (b64urlToBytes s).map TextDecoder.utf8.text

/-! ## Object keys -/

/-- A letter, a digit, or one of the marks a key is written with. -/
def isKeyChar (c : Char) : Bool :=
  c.isAlphanum || c == '.' || c == '_' || c == '/' || c == '-'

/-- A letter, a digit, an underscore or a hyphen. -/
def isIdChar (c : Char) : Bool := c.isAlphanum || c == '_' || c == '-'

/-- Behind its folder, a key has safe characters only, and at least one. -/
def restIsSafe (folder key : String) : Bool :=
  let rest := key.toList.drop folder.toList.length
  rest ≠ [] && rest.all isKeyChar

/-- Object keys must be path-safe under video/ (ZDR), music/ (audio), or image/ (async gens). -/
def isSafeObjectKey (key : String) : Bool :=
  if JsString.length key < 8 ∨ 200 < JsString.length key then false
  else if JsString.includes key ".." || JsString.includes key "//" ||
      JsString.includes key "\\" then
    false
  -- the folders in the order of the source's alternation
  else if JsString.startsWith key "video/" then restIsSafe "video/" key
  else if JsString.startsWith key "music/" then restIsSafe "music/" key
  else if JsString.startsWith key "image/" then restIsSafe "image/" key
  else false

/-- `[0-9a-f]`. -/
def isHexDigit (c : Char) : Bool := c.isDigit || ('a' ≤ c && c ≤ 'f')

/-- What `crypto.randomUUID()` returns. -/
structure Uuid where
  text : String
  format : ∃ a b c d e : List Char,
    text.toList = a ++ '-' :: (b ++ '-' :: (c ++ '-' :: (d ++ '-' :: e))) ∧
    [a, b, c, d, e].map List.length = [8, 4, 4, 4, 12] ∧ (a ++ b ++ c ++ d ++ e).all isHexDigit

/-- An id with its other characters removed, cut to 32. -/
def keyPart (id fallback : String) : String :=
  let kept := JsString.slice (String.ofList (id.toList.filter isIdChar)) 32
  if kept = "" then fallback else kept

/-- What an object key is made of. -/
structure MediaKeyParts where
  acct : String
  req : String
  rand : String

/-- The parts of a new key; the random one is 16 hex digits of a UUID. -/
def mediaKeyParts (uuid : Uuid) (accountId requestId : String) : MediaKeyParts where
  acct := keyPart accountId "acct"
  req := keyPart requestId "req"
  rand := JsString.slice (String.ofList (uuid.text.toList.filter (· ≠ '-'))) 16

/-- The key of a new object in a folder. -/
def newObjectKey (folder extension : String) (uuid : Uuid) (accountId requestId : String) :
    String :=
  let parts := mediaKeyParts uuid accountId requestId
  folder ++ "/" ++ parts.acct ++ "/" ++ parts.req ++ "-" ++ parts.rand ++ extension

/-- The key of a new video. -/
def newVideoObjectKey : Uuid → String → String → String := newObjectKey "video" ".mp4"

/-- R2 object key for rehosted MiniMax (or other) music assets. -/
def newMusicObjectKey : Uuid → String → String → String := newObjectKey "music" ".mp3"

/-- R2 object key for async image generation results (gpt-image-2, etc.). -/
def newImageObjectKey : Uuid → String → String → String := newObjectKey "image" ".png"

/-! ## Tokens -/

/-- An upload or a download. -/
inductive MediaTokenKind where
  | u
  | d
deriving Repr, DecidableEq

/-- The letter of a kind in a token. -/
def MediaTokenKind.text : MediaTokenKind → String
  | .u => "u"
  | .d => "d"

/-- The kind of a letter. -/
def MediaTokenKind.ofText (s : String) : Option MediaTokenKind :=
  if s = "u" then some .u else if s = "d" then some .d else none

/-- What a verified token says. -/
structure MediaToken where
  kind : MediaTokenKind
  objectKey : String
  exp : Number
deriving DecidableEq

/-- The text that is signed. -/
def payload (kind : MediaTokenKind) (exp : Number) (objectKey : String) : String :=
  kind.text ++ "\n" ++ exp.text ++ "\n" ++ objectKey

/-- The whole seconds a `Date` can hold, of which `Math.floor(Date.now() / 1000)` is one. -/
structure EpochSeconds where
  sec : Int
  range : sec.natAbs ≤ 8640000000000

/-- The clock as a number of the token. -/
def EpochSeconds.number (now : EpochSeconds) : Number := Number.ofRat now.sec

section digests

variable (digests : Digests) (secret : String)

/-- The raw key of `hmacKey(secret)`. -/
def hmacKey : List UInt8 := digests.sha256 (TextEncoder.encode ("prism-media-v1:" ++ secret))

/-- The HMAC of a payload. -/
def signature (kind : MediaTokenKind) (exp : Number) (objectKey : String) : List UInt8 :=
  digests.hmac (hmacKey digests secret) (TextEncoder.encode (payload kind exp objectKey))

/-- A token: the kind, the expiry, the key and the signature. -/
def sign (kind : MediaTokenKind) (exp : Number) (objectKey : String) : String :=
  kind.text ++ "." ++ exp.text ++ "." ++ b64urlUtf8 objectKey ++ "." ++
    b64url (signature digests secret kind exp objectKey)

/-- Verify and parse a media token. `none` on bad shape, bad signature, or expiry. -/
def verifyMediaToken (token : String) (nowSec : Number) : Option MediaToken :=
  match JsString.split token '.' with
  | [kindRaw, expRaw, keyB64, sigB64] =>
    match MediaTokenKind.ofText kindRaw with
    | none => none
    | some kind =>
      let exp := Number.ofText expRaw
      if !exp.isInteger || exp.lt nowSec then none
      else
        match utf8FromB64url keyB64 with
        | none => none
        | some objectKey =>
          if objectKey = "" || !isSafeObjectKey objectKey then none
          else
            match b64urlToBytes sigB64 with
            | none => none
            | some sigBytes =>
              -- `crypto.subtle.verify` computes the HMAC and compares
              if signature digests secret kind exp objectKey = sigBytes then
                some ⟨kind, objectKey, exp⟩
              else none
  | _ => none

/-- A token and its expiry. -/
structure Minted where
  token : String
  exp : Number

/-- A token of a kind that is good for `ttl` seconds. -/
def mintToken (kind : MediaTokenKind) (ttl : Nat) (objectKey : String) (nowSec : Number) : Minted :=
  let exp := nowSec.add (Number.ofRat ttl)
  ⟨sign digests secret kind exp objectKey, exp⟩

/-- A link to put one object. -/
def mintUploadToken : String → Number → Minted := mintToken digests secret .u UPLOAD_TTL_SEC

/-- A link to get one object. -/
def mintDownloadToken : String → Number → Minted := mintToken digests secret .d DOWNLOAD_TTL_SEC

end digests

/-- `mediaSigningSecret(env)` of `CF_AIG_TOKEN`. -/
def mediaSigningSecret (token : Option String) : Option String :=
  token.filter fun s => 16 ≤ JsString.length s

end ControlPlane.Media
