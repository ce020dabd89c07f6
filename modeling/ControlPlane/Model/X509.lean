import ControlPlane.Model.AppleJws

/-!
# The certificate reader

`src/x509.ts`: a DER reader with definite lengths only, and the walk over a certificate. A
`null` of the source is `refused`. A read of a byte that is not there, and a loop that does
not come to its end, are faults of their own, so that the walk can be shown to have neither.

`walkCertificate` is `parseCertificate` with every TLV it reads; the certificate is made of
their bytes. Its `key` holds what the chain check of `Model/AppleJws` does not look at.
-/

namespace ControlPlane

/-! ## Reading -/

/-- Why a read ends without a value. -/
inductive Stop where
  /-- The source answers `null`. -/
  | refused
  /-- A byte outside the buffer was read. -/
  | outside
  /-- A loop ran longer than the buffer. -/
  | unfinished
deriving Repr, DecidableEq

/-- `buf[i]`. -/
def byteAt (buf : List UInt8) (i : Nat) : Except Stop UInt8 :=
  match buf[i]? with
  | some byte => .ok byte
  | none => .error .outside

/-- `if (!condition) return null`. -/
def require (condition : Bool) : Except Stop Unit :=
  if condition then .ok () else .error .refused

/-- The bytes from one offset to another. -/
def bytesOf (buf : List UInt8) : Nat → Nat → Except Stop (List UInt8)
  | _, 0 => .ok []
  | start, count + 1 => do
    let byte ← byteAt buf start
    let rest ← bytesOf buf (start + 1) count
    pure (byte :: rest)

/-- A parsed tag-length-value, by its offsets in the buffer. -/
structure Tlv where
  tag : UInt8
  start : Nat
  contentStart : Nat
  contentEnd : Nat
deriving Repr, DecidableEq

/-- `end`, one past the last byte. -/
def Tlv.stop (t : Tlv) : Nat := t.contentEnd

/-- The value of a long length. -/
def readLength (buf : List UInt8) (p n : Nat) : Except Stop Nat := do
  let bytes ← bytesOf buf p n
  pure (bytes.foldl (fun len byte => len * 256 + byte.toNat) 0)

/-- The TLV of a content that must fit in the buffer. -/
def tlvOf (buf : List UInt8) (tag : UInt8) (off p len : Nat) : Except Stop Tlv :=
  if buf.length < p + len then .error .refused else .ok ⟨tag, off, p, p + len⟩

/-- Read one TLV at an offset. -/
def readTlv (buf : List UInt8) (off : Nat) : Except Stop Tlv :=
  if buf.length < off + 2 then .error .refused
  else do
    let tag ← byteAt buf off
    -- a tag of more than one byte
    if tag &&& 0x1f = 0x1f then .error .refused
    else
      let first ← byteAt buf (off + 1)
      if first < 0x80 then tlvOf buf tag off (off + 2) first.toNat
      else
        let n := (first &&& 0x7f).toNat
        -- the indefinite form, more than four digits, or digits past the end
        if n = 0 ∨ 4 < n ∨ buf.length < off + 2 + n then .error .refused
        else
          let len ← readLength buf (off + 2) n
          if buf.length < len then .error .refused
          else tlvOf buf tag off (off + 2 + n) len

/-- The tag of an INTEGER. -/
def TAG_INTEGER : UInt8 := 0x02
/-- The tag of a BIT STRING. -/
def TAG_BIT_STRING : UInt8 := 0x03
/-- The tag of an OCTET STRING. -/
def TAG_OCTET_STRING : UInt8 := 0x04
/-- The tag of an OBJECT IDENTIFIER. -/
def TAG_OID : UInt8 := 0x06
/-- The tag of a BOOLEAN. -/
def TAG_BOOLEAN : UInt8 := 0x01
/-- The tag of a SEQUENCE. -/
def TAG_SEQUENCE : UInt8 := 0x30
/-- The tag of a UTCTime, whose year has two digits. -/
def TAG_UTC_TIME : UInt8 := 0x17
/-- The tag of a GeneralizedTime, whose year has four. -/
def TAG_GENERALIZED_TIME : UInt8 := 0x18

/-- Read a TLV that must have a tag. -/
def readTagged (buf : List UInt8) (off : Nat) (tag : UInt8) : Except Stop Tlv := do
  let t ← readTlv buf off
  require (t.tag = tag)
  pure t

/-! ## Object identifiers and times -/

/-- `n.toString(16).padStart(2, "0")`. -/
def hexByte (byte : UInt8) : String :=
  String.ofList [Nat.digitChar (byte.toNat / 16), Nat.digitChar (byte.toNat % 16)]

/-- Bytes as lower-case hex digits. -/
def hexOf (buf : List UInt8) (start stop : Nat) : Except Stop String := do
  let bytes ← bytesOf buf start (stop - start)
  pure (String.join (bytes.map hexByte))

namespace OID

/-- An elliptic curve key. -/
def ecPublicKey : String := "06072a8648ce3d0201"
/-- The curve P-256. -/
def p256 : String := "06082a8648ce3d030107"
/-- The curve P-384. -/
def p384 : String := "06052b81040022"
/-- A signature over SHA-256. -/
def ecdsaWithSha256 : String := "06082a8648ce3d040302"
/-- A signature over SHA-384. -/
def ecdsaWithSha384 : String := "06082a8648ce3d040303"
/-- The extension that says what a CA is. -/
def basicConstraints : String := "0603551d13"

end OID

/-- The hashes of the signatures. -/
inductive EcHash where
  | sha256
  | sha384
deriving Repr, DecidableEq

/-- A digit of a time. -/
def isDigitByte (byte : UInt8) : Bool := 0x30 ≤ byte && byte ≤ 0x39

/-- The number some digits write. -/
def digitsValue (bytes : List UInt8) : Nat :=
  bytes.foldl (fun value byte => value * 10 + (byte.toNat - 0x30)) 0

/-- The days from 1970 to a day of the civil calendar. -/
def daysFromCivil (year : Int) (month day : Nat) : Int :=
  let y := if month ≤ 2 then year - 1 else year
  let era := y / 400
  let yearOfEra := y - era * 400
  let dayOfYear : Int := (153 * ((month + 9) % 12 : Nat) + 2) / 5 + day - 1
  let dayOfEra := yearOfEra * 365 + yearOfEra / 4 - yearOfEra / 100 + dayOfYear
  era * 146097 + dayOfEra - 719468

/-- `Date.UTC(year, month - 1, day, hour, minute, second)`: a year below 100 is of the
    twentieth century. -/
def dateUtc (year month day hour minute second : Nat) : Int :=
  let year := if year ≤ 99 then 1900 + year else year
  (((daysFromCivil year month day * 24 + hour) * 60 + minute) * 60 + second) * 1000

example : dateUtc 2026 8 5 15 0 0 = 1785942000000 := by decide

/-- The year of a time and its ten digits, where it is written as its tag wants. -/
def timeParts (tag : UInt8) (text : List UInt8) : Option (Nat × List UInt8) :=
  let digits := text.dropLast
  if text.getLast? = some 0x5a && digits.all isDigitByte then
    if tag = TAG_UTC_TIME ∧ digits.length = 12 then
      -- a UTCTime is between 1950 and 2049
      let yy := digitsValue (digits.take 2)
      some (if 50 ≤ yy then 1900 + yy else 2000 + yy, digits.drop 2)
    else if tag = TAG_GENERALIZED_TIME ∧ digits.length = 14 then
      some (digitsValue (digits.take 4), digits.drop 4)
    else none
  else none

/-- A UTCTime or a GeneralizedTime, in the forms DER permits. -/
def parseAsn1Time (buf : List UInt8) (tlv : Tlv) : Except Stop Int := do
  let text ← bytesOf buf tlv.contentStart (tlv.contentEnd - tlv.contentStart)
  match timeParts tlv.tag text with
  | none => .error .refused
  | some (year, rest) =>
    let part := fun i => digitsValue ((rest.drop i).take 2)
    let month := part 0
    let day := part 2
    let hour := part 4
    let minute := part 6
    let second := part 8
    if month < 1 ∨ 12 < month ∨ day < 1 ∨ 31 < day ∨ 23 < hour ∨ 59 < minute ∨ 60 < second then
      .error .refused
    else .ok (dateUtc year month day hour minute second)

/-! ## The walk -/

/-- The digest an algorithm signs with. -/
def hashOf (hex : String) : Except Stop EcHash :=
  if hex = OID.ecdsaWithSha256 then .ok .sha256
  else if hex = OID.ecdsaWithSha384 then .ok .sha384
  else .error .refused

/-- The curve of a key. -/
def curveOf (hex : String) : Except Stop EcCurve :=
  if hex = OID.p256 then .ok .p256
  else if hex = OID.p384 then .ok .p384
  else .error .refused

/-- The signature that follows the signed bytes. -/
structure SignatureWalk where
  alg : Tlv
  oid : Tlv
  hash : EcHash
  value : Tlv
deriving DecidableEq

/-- The algorithm and the value of the signature, to the end of the certificate. -/
def walkSignature (der : List UInt8) (cert tbs : Tlv) : Except Stop SignatureWalk := do
  let alg ← readTagged der tbs.stop TAG_SEQUENCE
  let oid ← readTagged der alg.contentStart TAG_OID
  let hex ← hexOf der oid.start oid.stop
  let hash ← hashOf hex
  let value ← readTagged der alg.stop TAG_BIT_STRING
  -- nothing follows the signature, and it has no unused bits
  require (value.stop = cert.contentEnd)
  require (2 ≤ value.contentEnd - value.contentStart)
  let unused ← byteAt der value.contentStart
  require (unused = 0)
  pure ⟨alg, oid, hash, value⟩

/-- The validity, as it is walked. -/
structure ValidityWalk where
  validity : Tlv
  notBefore : Tlv
  notAfter : Tlv
  notBeforeMs : Int
  notAfterMs : Int
deriving DecidableEq

/-- The two times of the validity, and nothing else. -/
def walkValidity (der : List UInt8) (off : Nat) : Except Stop ValidityWalk := do
  let validity ← readTagged der off TAG_SEQUENCE
  let notBefore ← readTlv der validity.contentStart
  let notAfter ← readTlv der notBefore.stop
  require (notAfter.stop = validity.contentEnd)
  let notBeforeMs ← parseAsn1Time der notBefore
  let notAfterMs ← parseAsn1Time der notAfter
  pure ⟨validity, notBefore, notAfter, notBeforeMs, notAfterMs⟩

/-- The public key, as it is walked. -/
structure SpkiWalk where
  spki : Tlv
  alg : Tlv
  keyType : Tlv
  curveOid : Tlv
  curve : EcCurve
deriving DecidableEq

/-- The public key: an elliptic curve key on a known curve. -/
def walkSpki (der : List UInt8) (off : Nat) : Except Stop SpkiWalk := do
  let spki ← readTagged der off TAG_SEQUENCE
  let alg ← readTagged der spki.contentStart TAG_SEQUENCE
  let keyType ← readTagged der alg.contentStart TAG_OID
  let keyTypeHex ← hexOf der keyType.start keyType.stop
  require (keyTypeHex = OID.ecPublicKey)
  let curveOid ← readTagged der keyType.stop TAG_OID
  -- the algorithm is the key type and the curve, and nothing else
  require (curveOid.stop = alg.contentEnd)
  let curveHex ← hexOf der curveOid.start curveOid.stop
  let curve ← curveOf curveHex
  pure ⟨spki, alg, keyType, curveOid, curve⟩

/-- The value of a basicConstraints extension. -/
structure ConstraintsWalk where
  constraints : Tlv
  /-- Its first TLV, where there is one. -/
  first : Option Tlv
  /-- What it says of `cA`, where it says anything. -/
  isCa : Option Bool
deriving DecidableEq

/-- The basic constraints, whose flag is absent when false. -/
def walkConstraints (der : List UInt8) (value : Tlv) : Except Stop ConstraintsWalk := do
  let constraints ← readTagged der value.contentStart TAG_SEQUENCE
  if constraints.contentStart < constraints.contentEnd then
    match readTlv der constraints.contentStart with
    | .ok ca =>
      if ca.tag = TAG_BOOLEAN ∧ ca.contentEnd - ca.contentStart = 1 then
        let byte ← byteAt der ca.contentStart
        pure ⟨constraints, some ca, some (byte ≠ 0)⟩
      else pure ⟨constraints, some ca, none⟩
    | .error .refused => pure ⟨constraints, none, none⟩
    | .error stop => .error stop
  else pure ⟨constraints, none, none⟩

/-- An extension, as it is walked. -/
structure ExtensionWalk where
  ext : Tlv
  id : Tlv
  idHex : String
  /-- The TLV after the id: `critical`, or the value itself. -/
  maybeCritical : Tlv
  value : Tlv
  constraints : Option ConstraintsWalk
deriving DecidableEq

/-- The value is looked into for basicConstraints only. -/
def constraintsOf (der : List UInt8) (idHex : String) (value : Tlv) :
    Except Stop (Option ConstraintsWalk) :=
  if idHex = OID.basicConstraints then (walkConstraints der value).map some else .ok none

/-- One extension: its id, `critical` where it is there, and its value. -/
def walkExtension (der : List UInt8) (off : Nat) : Except Stop ExtensionWalk := do
  let ext ← readTagged der off TAG_SEQUENCE
  let id ← readTagged der ext.contentStart TAG_OID
  let idHex ← hexOf der id.start id.stop
  let maybeCritical ← readTlv der id.stop
  let value ← readTagged der
    (if maybeCritical.tag = TAG_BOOLEAN then maybeCritical.stop else id.stop) TAG_OCTET_STRING
  let constraints ← constraintsOf der idHex value
  pure ⟨ext, id, idHex, maybeCritical, value, constraints⟩

/-- The loop over the extensions, which `fuel` bounds. -/
def walkExtensions (der : List UInt8) (stop : Nat) : Nat → Nat → Except Stop (List ExtensionWalk)
  | fuel, off =>
    if off < stop then
      match fuel with
      | 0 => .error .unfinished
      | fuel + 1 => do
        let ext ← walkExtension der off
        let rest ← walkExtensions der stop fuel ext.ext.stop
        pure (ext :: rest)
    else .ok []

/-- A TLV after the key, with the extensions it holds. -/
structure TailWalk where
  tlv : Tlv
  extensions : Option (Tlv × List ExtensionWalk)
deriving DecidableEq

/-- `[3]`. -/
def TAG_EXTENSIONS : UInt8 := 0xa3

/-- One TLV after the key, and the extensions where it holds them. -/
def walkTailTlv (der : List UInt8) (off : Nat) : Except Stop TailWalk := do
  let t ← readTlv der off
  if t.tag = TAG_EXTENSIONS then
    let seq ← readTagged der t.contentStart TAG_SEQUENCE
    let exts ← walkExtensions der seq.contentEnd der.length seq.contentStart
    pure ⟨t, some (seq, exts)⟩
  else pure ⟨t, none⟩

/-- The loop over what follows the key. -/
def walkTail (der : List UInt8) (stop : Nat) : Nat → Nat → Except Stop (List TailWalk)
  | fuel, off =>
    if off < stop then
      match fuel with
      | 0 => .error .unfinished
      | fuel + 1 => do
        let t ← walkTailTlv der off
        let rest ← walkTail der stop fuel t.tlv.stop
        pure (t :: rest)
    else .ok []

/-- `version [0] EXPLICIT`, where it is there. -/
def readVersion (der : List UInt8) (tbs : Tlv) : Except Stop (Option Tlv) :=
  if tbs.contentStart < tbs.contentEnd then do
    let byte ← byteAt der tbs.contentStart
    if byte = 0xa0 then (readTlv der tbs.contentStart).map some else pure none
  else pure none

/-- Every TLV of a certificate that is read. -/
structure CertificateWalk where
  cert : Tlv
  tbs : Tlv
  signature : SignatureWalk
  version : Option Tlv
  serial : Tlv
  innerSigAlg : Tlv
  issuer : Tlv
  validity : ValidityWalk
  subject : Tlv
  spki : SpkiWalk
  tail : List TailWalk
deriving DecidableEq

/-- The whole certificate, every length checked against its parent. -/
def walkCertificate (der : List UInt8) : Except Stop CertificateWalk := do
  let cert ← readTagged der 0 TAG_SEQUENCE
  -- nothing follows the certificate
  require (cert.stop = der.length)
  let tbs ← readTagged der cert.contentStart TAG_SEQUENCE
  let signature ← walkSignature der cert tbs
  let version ← readVersion der tbs
  let serial ← readTagged der ((version.map (·.stop)).getD tbs.contentStart) TAG_INTEGER
  let innerSigAlg ← readTagged der serial.stop TAG_SEQUENCE
  let inner ← hexOf der innerSigAlg.start innerSigAlg.stop
  let outer ← hexOf der signature.alg.start signature.alg.stop
  -- the algorithm inside the signed bytes is the one named outside
  require (inner = outer)
  let issuer ← readTagged der innerSigAlg.stop TAG_SEQUENCE
  let validity ← walkValidity der issuer.stop
  let subject ← readTagged der validity.validity.stop TAG_SEQUENCE
  let spki ← walkSpki der subject.stop
  let tail ← walkTail der tbs.contentEnd der.length spki.spki.stop
  pure ⟨cert, tbs, signature, version, serial, innerSigAlg, issuer, validity, subject, spki, tail⟩

/-! ## The certificate -/

/-- What the signature checks look at of a certificate. -/
structure CertificateBytes where
  der : Bytes
  tbs : Bytes
  issuer : Bytes
  subject : Bytes
  spki : Bytes
  signatureHash : EcHash
  signature : Bytes
deriving DecidableEq

/-- `der.subarray(start, stop)`. -/
def subarray (der : List UInt8) (start stop : Nat) : List UInt8 :=
  (der.drop start).take (stop - start)

/-- The complete bytes of a TLV. -/
def Tlv.bytes (der : List UInt8) (t : Tlv) : List UInt8 := subarray der t.start t.stop

namespace CertificateWalk

/-- The extensions, in order. -/
def extensions (walk : CertificateWalk) : List ExtensionWalk :=
  walk.tail.flatMap fun t => (t.extensions.map (·.2)).getD []

/-- The last basicConstraints that says anything of `cA` decides. -/
def isCa (walk : CertificateWalk) : Bool :=
  walk.extensions.foldl (fun isCa ext => (ext.constraints.bind (·.isCa)).getD isCa) false

/-- What `parseCertificate` returns. -/
def certificate (der : List UInt8) (walk : CertificateWalk) :
    ParsedCertificate CertificateBytes where
  isCa := walk.isCa
  extensionOids := walk.extensions.map (·.idHex)
  curve := walk.spki.curve
  notBeforeMs := walk.validity.notBeforeMs
  notAfterMs := walk.validity.notAfterMs
  key :=
    { der := der
      tbs := walk.tbs.bytes der
      issuer := walk.issuer.bytes der
      subject := walk.subject.bytes der
      spki := walk.spki.spki.bytes der
      signatureHash := walk.signature.hash
      signature :=
        subarray der (walk.signature.value.contentStart + 1) walk.signature.value.contentEnd }

end CertificateWalk

/-- The certificate of its bytes. -/
def parseCertificate (der : List UInt8) : Except Stop (ParsedCertificate CertificateBytes) :=
  (walkCertificate der).map (·.certificate der)

/-! ## Signatures -/

/-- `while (from < contentEnd - 1 && sig[from] === 0x00) from++`. -/
def skipZeros (sig : List UInt8) : Nat → Nat → Except Stop Nat
  | start, 0 => .ok start
  | start, count + 1 => do
    let byte ← byteAt sig start
    if byte = 0 then skipZeros sig (start + 1) count else pure start

/-- `out.set(bytes, at)`. -/
def setBytes (out : List UInt8) (offset : Nat) (bytes : List UInt8) : List UInt8 :=
  out.take offset ++ bytes ++ out.drop (offset + bytes.length)

/-- Copy the content of an INTEGER to the end of the `size` bytes from an offset. -/
def place (sig : List UInt8) (size : Nat) (t : Tlv) (offset : Nat) (out : List UInt8) :
    Except Stop (List UInt8) := do
  let start ← skipZeros sig t.contentStart (t.contentEnd - 1 - t.contentStart)
  let len := t.contentEnd - start
  if size < len ∨ len = 0 then .error .refused
  else
    let bytes ← bytesOf sig start len
    pure (setBytes out (offset + size - len) bytes)

/-- A DER signature in the fixed width that WebCrypto takes. -/
def derEcdsaToP1363 (sig : List UInt8) (size : Nat) : Except Stop (List UInt8) := do
  let seq ← readTlv sig 0
  require (seq.tag = TAG_SEQUENCE ∧ seq.stop = sig.length)
  let r ← readTagged sig seq.contentStart TAG_INTEGER
  let s ← readTlv sig r.stop
  require (s.tag = TAG_INTEGER ∧ s.stop = seq.contentEnd)
  let out ← place sig size r 0 (List.replicate (size * 2) 0)
  place sig size s size out

end ControlPlane
