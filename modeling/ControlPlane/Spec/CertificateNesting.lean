import ControlPlane.Model.X509

/-!
# What a certificate's signature covers

`readTlv` bounds a TLV by the buffer only, and `parseCertificate` reads one TLV after another
from there. The walk always ends, and reads no byte that is not there. Its TLVs lie inside
their parents exactly where the runs of TLVs it reads do not pass the end of what they are
read in, which the code checks of some of them only.

## Key results

- `readTlv_spec`: where a TLV that is read lies
- `safe_walkCertificate`: the walk ends, inside the buffer
- `certificate_nested`: when an accepted certificate is nested
-/

namespace ControlPlane

/-! ## Reads that do not fault -/

/-- A read that has no fault: it answers, or refuses. -/
def Safe {α : Type} (read : Except Stop α) : Prop := ∀ stop, read = .error stop → stop = .refused

namespace Safe

variable {α β : Type}

/-- A result is no fault. -/
theorem ok (a : α) : Safe (.ok a) := fun _ h => by cases h

/-- A refusal is no fault. -/
theorem refused : Safe (.error .refused : Except Stop α) := fun _ h => by
  cases h
  rfl

/-- What follows a safe read may use what it read. -/
theorem bind {read : Except Stop α} {next : α → Except Stop β} (h : Safe read)
    (hnext : ∀ a, read = .ok a → Safe (next a)) : Safe (read >>= next) := by
  cases read with
  | error stop =>
    obtain rfl := h stop rfl
    exact refused
  | ok a => exact hnext a rfl

/-- What is made of a result is no fault. -/
theorem map {read : Except Stop α} (h : Safe read) (f : α → β) : Safe (read.map f) := by
  cases read with
  | error stop =>
    obtain rfl := h stop rfl
    exact refused
  | ok a => exact ok (f a)

/-- Neither branch faults. -/
theorem ite {condition : Prop} [Decidable condition] {yes no : Except Stop α}
    (hyes : condition → Safe yes) (hno : ¬ condition → Safe no) :
    Safe (if condition then yes else no) := by
  split
  · rename_i h
    exact hyes h
  · rename_i h
    exact hno h

end Safe

/-- A check refuses, and does not fault. -/
theorem safe_require (condition : Bool) : Safe (require condition) := by
  unfold require
  exact Safe.ite (fun _ => .ok ()) (fun _ => .refused)

/-- A byte of the input can be read. -/
theorem safe_byteAt {buf : List UInt8} {i : Nat} (h : i < buf.length) : Safe (byteAt buf i) := by
  unfold byteAt
  rw [List.getElem?_eq_getElem h]
  exact .ok _

/-- So can bytes within it. -/
theorem safe_bytesOf {buf : List UInt8} {start count : Nat} (h : start + count ≤ buf.length) :
    Safe (bytesOf buf start count) := by
  induction count generalizing start with
  | zero => exact .ok []
  | succ count ih =>
    refine (safe_byteAt (by omega)).bind fun byte _ => ?_
    exact (ih (by omega)).bind fun rest _ => .ok _

/-- A length past the end is refused. -/
theorem safe_tlvOf (buf : List UInt8) (tag : UInt8) (off p len : Nat) :
    Safe (tlvOf buf tag off p len) := by
  unfold tlvOf
  exact Safe.ite (fun _ => .refused) (fun _ => .ok _)

/-- A TLV is read from the buffer only. -/
theorem safe_readTlv (buf : List UInt8) (off : Nat) : Safe (readTlv buf off) := by
  unfold readTlv
  -- each byte that is read was found inside the buffer first
  refine Safe.ite (fun _ => .refused) fun hshort => ?_
  refine (safe_byteAt (by omega)).bind fun tag _ => ?_
  refine Safe.ite (fun _ => .refused) fun _ => ?_
  refine (safe_byteAt (by omega)).bind fun first _ => ?_
  refine Safe.ite (fun _ => safe_tlvOf _ _ _ _ _) fun _ => ?_
  refine Safe.ite (fun _ => .refused) fun hlong => ?_
  have hlength : Safe (readLength buf (off + 2) (first &&& 0x7f).toNat) :=
    (safe_bytesOf (by omega)).bind fun bytes _ => .ok _
  refine hlength.bind fun len _ => ?_
  exact Safe.ite (fun _ => .refused) (fun _ => safe_tlvOf _ _ _ _ _)

/-! ## Where a TLV lies -/

/-- A TLV ends within the input. -/
theorem tlvOf_spec {buf : List UInt8} {tag : UInt8} {off p len : Nat} {t : Tlv}
    (h : tlvOf buf tag off p len = .ok t) :
    t.start = off ∧ t.contentStart = p ∧ p ≤ t.contentEnd ∧ t.contentEnd ≤ buf.length := by
  unfold tlvOf at h
  split at h
  · cases h
  · rename_i hfits
    cases h
    exact ⟨rfl, rfl, Nat.le_add_right p len, Nat.le_of_not_lt hfits⟩

/-- A TLV starts where it was read, and its content ends in the buffer. -/
structure TlvAt (buf : List UInt8) (off : Nat) (t : Tlv) : Prop where
  start : t.start = off
  header : off + 2 ≤ t.contentStart
  content : t.contentStart ≤ t.contentEnd
  inBuffer : t.contentEnd ≤ buf.length

/-- A TLV stands where its header was read. -/
theorem TlvAt.of_tlvOf {buf : List UInt8} {tag : UInt8} {off p len : Nat} {t : Tlv}
    (h : tlvOf buf tag off p len = .ok t) (hp : off + 2 ≤ p) : TlvAt buf off t := by
  obtain ⟨hstart, hcontent, hlen, hbuf⟩ := tlvOf_spec h
  exact ⟨hstart, hcontent ▸ hp, hcontent ▸ hlen, hbuf⟩

/-- A TLV that is read stands at its offset. -/
theorem readTlv_spec {buf : List UInt8} {off : Nat} {t : Tlv} (h : readTlv buf off = .ok t) :
    TlvAt buf off t := by
  unfold readTlv at h
  split at h
  · cases h
  · obtain ⟨tag, -, h⟩ := bind_ok h
    split at h
    · cases h
    · obtain ⟨first, -, h⟩ := bind_ok h
      split at h
      -- a short length stands in the one byte
      · exact .of_tlvOf h le_rfl
      · dsimp only at h
        split at h
        · cases h
        · obtain ⟨len, -, h⟩ := bind_ok h
          split at h
          · cases h
          -- a long one in the bytes behind it
          · exact .of_tlvOf h (by omega)

/-- A check that passes holds. -/
theorem require_ok {condition : Bool} {u : Unit} (h : require condition = .ok u) :
    condition = true := by
  by_contra hne
  simp [require, hne] at h

/-- A TLV that is read by its tag has it. -/
theorem readTagged_spec {buf : List UInt8} {off : Nat} {tag : UInt8} {t : Tlv}
    (h : readTagged buf off tag = .ok t) : readTlv buf off = .ok t ∧ t.tag = tag := by
  obtain ⟨t', hread, h⟩ := bind_ok h
  obtain ⟨_, htag, h⟩ := bind_ok h
  cases h
  exact ⟨hread, by simpa using require_ok htag⟩

/-- What is read at an offset is one TLV, and so has one tag. -/
theorem readTagged_det {buf : List UInt8} {off : Nat} {tag tag' : UInt8} {t t' : Tlv}
    (h : readTagged buf off tag = .ok t) (h' : readTagged buf off tag' = .ok t') :
    t = t' ∧ tag = tag' := by
  obtain ⟨hread, htag⟩ := readTagged_spec h
  obtain ⟨hread', htag'⟩ := readTagged_spec h'
  rw [hread] at hread'
  obtain rfl := Except.ok.inj hread'
  exact ⟨rfl, htag.symm.trans htag'⟩

/-- Reading by tag does not fault. -/
theorem safe_readTagged (buf : List UInt8) (off : Nat) (tag : UInt8) :
    Safe (readTagged buf off tag) :=
  (safe_readTlv buf off).bind fun _ _ => (safe_require _).bind fun _ _ => .ok _

/-- The bytes of a TLV are there. -/
theorem safe_hexOf {buf : List UInt8} {off : Nat} {t : Tlv} (h : TlvAt buf off t) :
    Safe (hexOf buf t.start t.stop) := by
  have hlt : t.start + (t.stop - t.start) ≤ buf.length := by
    have := h.start
    have := h.header
    have := h.content
    have := h.inBuffer
    have : t.stop = t.contentEnd := rfl
    omega
  exact (safe_bytesOf hlt).bind fun _ _ => .ok _

/-! ## The walk does not fault -/

/-- The bytes of a time are there. -/
theorem safe_parseAsn1Time {buf : List UInt8} {off : Nat} {t : Tlv} (h : TlvAt buf off t) :
    Safe (parseAsn1Time buf t) := by
  have hlt : t.contentStart + (t.contentEnd - t.contentStart) ≤ buf.length := by
    have := h.content
    have := h.inBuffer
    omega
  -- the text of the time is the content, which was checked
  refine (safe_bytesOf hlt).bind fun text _ => ?_
  dsimp only
  split
  · exact .refused
  · exact Safe.ite (fun _ => .refused) (fun _ => .ok _)

/-- An unknown algorithm is refused. -/
theorem safe_hashOf (hex : String) : Safe (hashOf hex) :=
  Safe.ite (fun _ => .ok _) fun _ => Safe.ite (fun _ => .ok _) fun _ => .refused

/-- An unknown curve is refused. -/
theorem safe_curveOf (hex : String) : Safe (curveOf hex) :=
  Safe.ite (fun _ => .ok _) fun _ => Safe.ite (fun _ => .ok _) fun _ => .refused

section walk

variable (der : List UInt8)

/-- The signature is read without a fault. -/
theorem safe_walkSignature (cert tbs : Tlv) : Safe (walkSignature der cert tbs) := by
  refine (safe_readTagged der _ _).bind fun alg _ => ?_
  refine (safe_readTagged der _ _).bind fun oid hoid => ?_
  refine (safe_hexOf (readTlv_spec (readTagged_spec hoid).1)).bind fun hex _ => ?_
  refine (safe_hashOf hex).bind fun hash _ => ?_
  refine (safe_readTagged der _ _).bind fun value hvalue => ?_
  refine (safe_require _).bind fun _ _ => ?_
  refine (safe_require _).bind fun _ hsize => ?_
  -- the size was checked, so the first byte of the signature is there
  have hbyte : value.contentStart < der.length := by
    have hsize := require_ok hsize
    have := (readTlv_spec (readTagged_spec hvalue).1).inBuffer
    simp only [decide_eq_true_eq] at hsize
    omega
  refine (safe_byteAt hbyte).bind fun unused _ => ?_
  exact (safe_require _).bind fun _ _ => .ok _

/-- So is the validity. -/
theorem safe_walkValidity (off : Nat) : Safe (walkValidity der off) := by
  refine (safe_readTagged der _ _).bind fun validity _ => ?_
  refine (safe_readTlv der _).bind fun notBefore hbefore => ?_
  refine (safe_readTlv der _).bind fun notAfter hafter => ?_
  refine (safe_require _).bind fun _ _ => ?_
  refine (safe_parseAsn1Time (readTlv_spec hbefore)).bind fun _ _ => ?_
  exact (safe_parseAsn1Time (readTlv_spec hafter)).bind fun _ _ => .ok _

/-- So is the public key. -/
theorem safe_walkSpki (off : Nat) : Safe (walkSpki der off) := by
  refine (safe_readTagged der _ _).bind fun spki _ => ?_
  refine (safe_readTagged der _ _).bind fun alg _ => ?_
  refine (safe_readTagged der _ _).bind fun keyType hkey => ?_
  refine (safe_hexOf (readTlv_spec (readTagged_spec hkey).1)).bind fun _ _ => ?_
  refine (safe_require _).bind fun _ _ => ?_
  refine (safe_readTagged der _ _).bind fun curveOid hcurve => ?_
  refine (safe_require _).bind fun _ _ => ?_
  refine (safe_hexOf (readTlv_spec (readTagged_spec hcurve).1)).bind fun hex _ => ?_
  exact (safe_curveOf hex).bind fun _ _ => .ok _

/-- So are the constraints. -/
theorem safe_walkConstraints (value : Tlv) : Safe (walkConstraints der value) := by
  refine (safe_readTagged der _ _).bind fun constraints _ => ?_
  refine Safe.ite (fun _ => ?_) (fun _ => .ok _)
  have hread := safe_readTlv der constraints.contentStart
  cases hca : readTlv der constraints.contentStart with
  | ok ca =>
    refine Safe.ite (fun hbool => ?_) (fun _ => .ok _)
    -- a boolean has one byte
    have hbyte : ca.contentStart < der.length := by
      have := (readTlv_spec hca).inBuffer
      have := hbool.2
      omega
    exact (safe_byteAt hbyte).bind fun _ _ => .ok _
  | error stop =>
    obtain rfl := hread stop hca
    exact .ok _

/-- So is an extension. -/
theorem safe_walkExtension (off : Nat) : Safe (walkExtension der off) := by
  refine (safe_readTagged der _ _).bind fun ext _ => ?_
  refine (safe_readTagged der _ _).bind fun id hid => ?_
  refine (safe_hexOf (readTlv_spec (readTagged_spec hid).1)).bind fun hex _ => ?_
  refine (safe_readTlv der _).bind fun maybeCritical _ => ?_
  refine (safe_readTagged der _ _).bind fun value _ => ?_
  have hconstraints : Safe (constraintsOf der hex value) :=
    Safe.ite (fun _ => (safe_walkConstraints der value).map some) (fun _ => .ok _)
  exact hconstraints.bind fun _ _ => .ok _

/-- What was read of a signature. -/
structure SignatureWalk.Read (cert tbs : Tlv) (walk : SignatureWalk) : Prop where
  alg : readTagged der tbs.stop TAG_SEQUENCE = .ok walk.alg
  oid : readTagged der walk.alg.contentStart TAG_OID = .ok walk.oid
  value : readTagged der walk.alg.stop TAG_BIT_STRING = .ok walk.value
  ends : walk.value.contentEnd = cert.contentEnd

variable {der} in
/-- What the walk of the signature has read. -/
theorem walkSignature_read {cert tbs : Tlv} {walk : SignatureWalk}
    (h : walkSignature der cert tbs = .ok walk) : walk.Read der cert tbs := by
  obtain ⟨alg, halg, h⟩ := bind_ok h
  obtain ⟨oid, hoid, h⟩ := bind_ok h
  obtain ⟨hex, -, h⟩ := bind_ok h
  obtain ⟨hash, -, h⟩ := bind_ok h
  obtain ⟨value, hvalue, h⟩ := bind_ok h
  obtain ⟨_, hends, h⟩ := bind_ok h
  obtain ⟨_, -, h⟩ := bind_ok h
  obtain ⟨unused, -, h⟩ := bind_ok h
  obtain ⟨_, -, h⟩ := bind_ok h
  cases h
  exact ⟨halg, hoid, hvalue, of_decide_eq_true (require_ok hends)⟩

/-- What was read of a validity. -/
structure ValidityWalk.Read (off : Nat) (walk : ValidityWalk) : Prop where
  validity : readTagged der off TAG_SEQUENCE = .ok walk.validity
  notBefore : readTlv der walk.validity.contentStart = .ok walk.notBefore
  notAfter : readTlv der walk.notBefore.stop = .ok walk.notAfter
  ends : walk.notAfter.contentEnd = walk.validity.contentEnd

variable {der} in
/-- What the walk of the validity has read. -/
theorem walkValidity_read {off : Nat} {walk : ValidityWalk} (h : walkValidity der off = .ok walk) :
    walk.Read der off := by
  obtain ⟨validity, hvalidity, h⟩ := bind_ok h
  obtain ⟨notBefore, hbefore, h⟩ := bind_ok h
  obtain ⟨notAfter, hafter, h⟩ := bind_ok h
  obtain ⟨_, hends, h⟩ := bind_ok h
  obtain ⟨_, -, h⟩ := bind_ok h
  obtain ⟨_, -, h⟩ := bind_ok h
  cases h
  exact ⟨hvalidity, hbefore, hafter, of_decide_eq_true (require_ok hends)⟩

/-- What was read of a key. -/
structure SpkiWalk.Read (off : Nat) (walk : SpkiWalk) : Prop where
  spki : readTagged der off TAG_SEQUENCE = .ok walk.spki
  alg : readTagged der walk.spki.contentStart TAG_SEQUENCE = .ok walk.alg
  keyType : readTagged der walk.alg.contentStart TAG_OID = .ok walk.keyType
  curveOid : readTagged der walk.keyType.stop TAG_OID = .ok walk.curveOid
  ends : walk.curveOid.contentEnd = walk.alg.contentEnd

variable {der} in
/-- What the walk of the key has read. -/
theorem walkSpki_read {off : Nat} {walk : SpkiWalk} (h : walkSpki der off = .ok walk) :
    walk.Read der off := by
  obtain ⟨spki, hspki, h⟩ := bind_ok h
  obtain ⟨alg, halg, h⟩ := bind_ok h
  obtain ⟨keyType, hkey, h⟩ := bind_ok h
  obtain ⟨_, -, h⟩ := bind_ok h
  obtain ⟨_, -, h⟩ := bind_ok h
  obtain ⟨curveOid, hcurve, h⟩ := bind_ok h
  -- the key type and the curve are checked to fill the algorithm
  obtain ⟨_, hends, h⟩ := bind_ok h
  obtain ⟨_, -, h⟩ := bind_ok h
  obtain ⟨_, -, h⟩ := bind_ok h
  cases h
  exact ⟨hspki, halg, hkey, hcurve, of_decide_eq_true (require_ok hends)⟩

/-- What was read of an extension. -/
structure ExtensionWalk.Read (der : List UInt8) (off : Nat) (walk : ExtensionWalk) : Prop where
  ext : readTlv der off = .ok walk.ext
  id : readTlv der walk.ext.contentStart = .ok walk.id
  idHex : hexOf der walk.id.start walk.id.stop = .ok walk.idHex
  maybeCritical : readTlv der walk.id.stop = .ok walk.maybeCritical
  value : readTlv der (if walk.maybeCritical.tag = TAG_BOOLEAN then walk.maybeCritical.stop
    else walk.id.stop) = .ok walk.value
  constraints : constraintsOf der walk.idHex walk.value = .ok walk.constraints

variable {der} in
/-- What the walk of an extension has read. -/
theorem walkExtension_read {off : Nat} {walk : ExtensionWalk}
    (h : walkExtension der off = .ok walk) : walk.Read der off := by
  obtain ⟨ext, hext, h⟩ := bind_ok h
  obtain ⟨id, hid, h⟩ := bind_ok h
  obtain ⟨hex, hhex, h⟩ := bind_ok h
  obtain ⟨maybeCritical, hcritical, h⟩ := bind_ok h
  obtain ⟨value, hvalue, h⟩ := bind_ok h
  obtain ⟨constraints, hconstraints, h⟩ := bind_ok h
  cases h
  exact ⟨(readTagged_spec hext).1, (readTagged_spec hid).1, hhex, hcritical,
    (readTagged_spec hvalue).1, hconstraints⟩

/-- A loop each turn of which takes two bytes or more ends before its fuel. -/
theorem safe_walk {α : Type} {walk : Nat → Nat → Except Stop (List α)}
    (read : Nat → Except Stop α) (next : α → Nat) {stop : Nat} (hstop : stop ≤ der.length)
    (hend : ∀ fuel off, ¬ off < stop → walk fuel off = .ok [])
    (hturn : ∀ fuel off, off < stop → walk (fuel + 1) off =
      read off >>= fun a => walk fuel (next a) >>= fun rest => pure (a :: rest))
    (hread : ∀ off, Safe (read off)) (hnext : ∀ off a, read off = .ok a → off + 2 ≤ next a)
    (fuel off : Nat) (hfuel : der.length ≤ off + fuel) : Safe (walk fuel off) := by
  induction fuel generalizing off with
  | zero =>
    rw [hend _ _ (by omega)]
    exact .ok []
  | succ fuel ih =>
    by_cases hoff : off < stop
    -- every read moves on by two bytes at least, so the fuel lasts
    · rw [hturn _ _ hoff]
      refine (hread off).bind fun a ha => ?_
      have hnext := hnext off a ha
      exact (ih _ (by omega)).bind fun _ _ => .ok _
    · rw [hend _ _ hoff]
      exact .ok []

/-- The extensions are walked to their end. -/
theorem safe_walkExtensions {stop : Nat} (hstop : stop ≤ der.length) (fuel off : Nat)
    (hfuel : der.length ≤ off + fuel) : Safe (walkExtensions der stop fuel off) := by
  refine safe_walk der (walkExtension der) (fun ext => ext.ext.stop) hstop ?_ ?_
    (safe_walkExtension der) ?_ fuel off hfuel
  · intro fuel off hoff
    unfold walkExtensions
    exact if_neg hoff
  · intro fuel off hoff
    rw [walkExtensions, if_pos hoff]
  -- an extension ends behind its header
  · intro off ext hext
    have hspec := readTlv_spec (walkExtension_read hext).ext
    exact hspec.header.trans hspec.content

/-- So is a TLV after the key. -/
theorem safe_walkTailTlv (off : Nat) : Safe (walkTailTlv der off) := by
  refine (safe_readTlv der off).bind fun t _ => ?_
  refine Safe.ite (fun _ => ?_) (fun _ => .ok _)
  refine (safe_readTagged der _ _).bind fun seq hseq => ?_
  have hstop := (readTlv_spec (readTagged_spec hseq).1).inBuffer
  exact (safe_walkExtensions der hstop _ _ (Nat.le_add_left _ _)).bind fun _ _ => .ok _

variable {der} in
/-- And it is a TLV of the input. -/
theorem walkTailTlv_read {off : Nat} {walk : TailWalk} (h : walkTailTlv der off = .ok walk) :
    readTlv der off = .ok walk.tlv := by
  obtain ⟨t, hread, h⟩ := bind_ok h
  split at h
  · obtain ⟨seq, -, h⟩ := bind_ok h
    obtain ⟨exts, -, h⟩ := bind_ok h
    cases h
    exact hread
  · cases h
    exact hread

/-- So are all of them. -/
theorem safe_walkTail {stop : Nat} (hstop : stop ≤ der.length) (fuel off : Nat)
    (hfuel : der.length ≤ off + fuel) : Safe (walkTail der stop fuel off) := by
  refine safe_walk der (walkTailTlv der) (fun t => t.tlv.stop) hstop ?_ ?_
    (safe_walkTailTlv der) ?_ fuel off hfuel
  · intro fuel off hoff
    unfold walkTail
    exact if_neg hoff
  · intro fuel off hoff
    rw [walkTail, if_pos hoff]
  -- and so does an element of the tail
  · intro off t ht
    have hspec := readTlv_spec (walkTailTlv_read ht)
    exact hspec.header.trans hspec.content

variable {der} in
/-- The version is read where there is one. -/
theorem safe_readVersion {off : Nat} {tbs : Tlv} (h : TlvAt der off tbs) :
    Safe (readVersion der tbs) := by
  refine Safe.ite (fun hcontent => ?_) (fun _ => .ok none)
  have := h.inBuffer
  refine (safe_byteAt (by omega)).bind fun byte _ => ?_
  exact Safe.ite (fun _ => (safe_readTlv der _).map some) (fun _ => .ok none)

/-- The walk ends on every input, and reads nothing outside it. -/
theorem safe_walkCertificate : Safe (walkCertificate der) := by
  refine (safe_readTagged der _ _).bind fun cert _ => ?_
  refine (safe_require _).bind fun _ _ => ?_
  refine (safe_readTagged der _ _).bind fun tbs htbs => ?_
  have htbs := readTlv_spec (readTagged_spec htbs).1
  refine (safe_walkSignature der cert tbs).bind fun signature hsignature => ?_
  refine (safe_readVersion htbs).bind fun version _ => ?_
  refine (safe_readTagged der _ _).bind fun serial _ => ?_
  refine (safe_readTagged der _ _).bind fun innerSigAlg hinner => ?_
  refine (safe_hexOf (readTlv_spec (readTagged_spec hinner).1)).bind fun inner _ => ?_
  have halg := readTlv_spec (readTagged_spec (walkSignature_read hsignature).alg).1
  refine (safe_hexOf halg).bind fun outer _ => ?_
  refine (safe_require _).bind fun _ _ => ?_
  refine (safe_readTagged der _ _).bind fun issuer _ => ?_
  refine (safe_walkValidity der _).bind fun validity _ => ?_
  refine (safe_readTagged der _ _).bind fun subject _ => ?_
  refine (safe_walkSpki der _).bind fun spki _ => ?_
  exact (safe_walkTail der htbs.inBuffer _ _ (Nat.le_add_left _ _)).bind fun _ _ => .ok _

/-- What was read of a certificate. -/
structure CertificateWalk.Read (walk : CertificateWalk) : Prop where
  cert : readTagged der 0 TAG_SEQUENCE = .ok walk.cert
  tbs : readTagged der walk.cert.contentStart TAG_SEQUENCE = .ok walk.tbs
  signature : walk.signature.Read der walk.cert walk.tbs
  version : readVersion der walk.tbs = .ok walk.version
  serial : readTagged der ((walk.version.map (·.stop)).getD walk.tbs.contentStart) TAG_INTEGER =
    .ok walk.serial
  innerSigAlg : readTagged der walk.serial.stop TAG_SEQUENCE = .ok walk.innerSigAlg
  issuer : readTagged der walk.innerSigAlg.stop TAG_SEQUENCE = .ok walk.issuer
  validity : walk.validity.Read der walk.issuer.stop
  subject : readTagged der walk.validity.validity.stop TAG_SEQUENCE = .ok walk.subject
  spki : walk.spki.Read der walk.subject.stop
  tail : walkTail der walk.tbs.contentEnd der.length walk.spki.spki.stop = .ok walk.tail

variable {der} in
/-- What the walk of a certificate has read. -/
theorem walkCertificate_read {walk : CertificateWalk} (h : walkCertificate der = .ok walk) :
    walk.Read der := by
  -- every read of the walk in turn
  obtain ⟨cert, hcert, h⟩ := bind_ok h
  obtain ⟨_, -, h⟩ := bind_ok h
  obtain ⟨tbs, htbs, h⟩ := bind_ok h
  obtain ⟨signature, hsignature, h⟩ := bind_ok h
  obtain ⟨version, hversion, h⟩ := bind_ok h
  obtain ⟨serial, hserial, h⟩ := bind_ok h
  obtain ⟨innerSigAlg, hinner, h⟩ := bind_ok h
  obtain ⟨_, -, h⟩ := bind_ok h
  obtain ⟨_, -, h⟩ := bind_ok h
  obtain ⟨_, -, h⟩ := bind_ok h
  obtain ⟨issuer, hissuer, h⟩ := bind_ok h
  obtain ⟨validity, hvalidity, h⟩ := bind_ok h
  obtain ⟨subject, hsubject, h⟩ := bind_ok h
  obtain ⟨spki, hspki, h⟩ := bind_ok h
  obtain ⟨tail, htail, h⟩ := bind_ok h
  cases h
  exact ⟨hcert, htbs, walkSignature_read hsignature, hversion, hserial, hinner, hissuer,
    walkValidity_read hvalidity, hsubject, walkSpki_read hspki, htail⟩

end walk

/-! ## Nesting -/

/-- The complete TLV lies inside the content of another. -/
@[mk_iff]
structure Tlv.In (child parent : Tlv) : Prop where
  start : parent.contentStart ≤ child.start
  stop : child.contentEnd ≤ parent.contentEnd

/-- The TLVs of an extension. -/
@[mk_iff]
structure ExtensionWalk.Nested (walk : ExtensionWalk) : Prop where
  id : walk.id.In walk.ext
  maybeCritical : walk.maybeCritical.In walk.ext
  value : walk.value.In walk.ext
  constraints : ∀ c ∈ walk.constraints, c.constraints.In walk.value ∧
    ∀ first ∈ c.first, first.In c.constraints

/-- The TLVs of the tail. -/
@[mk_iff]
structure TailWalk.Nested (walk : TailWalk) : Prop where
  extensions : ∀ e ∈ walk.extensions, e.1.In walk.tlv ∧
    ∀ ext ∈ e.2, ext.ext.In e.1 ∧ ext.Nested

/-- Every TLV is nested in its parent. -/
@[mk_iff]
structure CertificateWalk.Nested (walk : CertificateWalk) : Prop where
  tbs : walk.tbs.In walk.cert
  sigAlg : walk.signature.alg.In walk.cert
  sigAlgOid : walk.signature.oid.In walk.signature.alg
  sigValue : walk.signature.value.In walk.cert
  version : ∀ version ∈ walk.version, version.In walk.tbs
  serial : walk.serial.In walk.tbs
  innerSigAlg : walk.innerSigAlg.In walk.tbs
  issuer : walk.issuer.In walk.tbs
  validity : walk.validity.validity.In walk.tbs
  notBefore : walk.validity.notBefore.In walk.validity.validity
  notAfter : walk.validity.notAfter.In walk.validity.validity
  subject : walk.subject.In walk.tbs
  spki : walk.spki.spki.In walk.tbs
  spkiAlg : walk.spki.alg.In walk.spki.spki
  keyType : walk.spki.keyType.In walk.spki.alg
  curveOid : walk.spki.curveOid.In walk.spki.alg
  tail : ∀ t ∈ walk.tail, t.tlv.In walk.tbs ∧ t.Nested

instance (child parent : Tlv) : Decidable (child.In parent) :=
  decidable_of_iff _ (Tlv.in_iff child parent).symm

instance (walk : ExtensionWalk) : Decidable walk.Nested :=
  decidable_of_iff _ (ExtensionWalk.nested_iff walk).symm

instance (walk : TailWalk) : Decidable walk.Nested :=
  decidable_of_iff _ (TailWalk.nested_iff walk).symm

instance (walk : CertificateWalk) : Decidable walk.Nested :=
  decidable_of_iff _ (CertificateWalk.nested_iff walk).symm

/-- What the returned certificate is made of lies in the bytes the signature covers. -/
structure CertificateWalk.Covered (walk : CertificateWalk) : Prop where
  issuer : walk.issuer.In walk.tbs
  subject : walk.subject.In walk.tbs
  validity : walk.validity.validity.In walk.tbs
  spki : walk.spki.spki.In walk.tbs
  extensions : ∀ ext ∈ walk.extensions, ext.id.In walk.tbs ∧
    ∀ c ∈ ext.constraints, c.constraints.In walk.tbs ∧ ∀ first ∈ c.first, first.In walk.tbs

/-! ## Runs of TLVs -/

/-- The TLVs read one after another from an offset until another is reached: the `n`-th of
    them. -/
inductive NthTlv (der : List UInt8) (stop : Nat) : Nat → Nat → Tlv → Prop
  | here {off : Nat} {t : Tlv} (hoff : off < stop) (hread : readTlv der off = .ok t) :
    NthTlv der stop off 0 t
  | later {off n : Nat} {first t : Tlv} (hoff : off < stop) (hread : readTlv der off = .ok first)
    (hrest : NthTlv der stop first.stop n t) : NthTlv der stop off (n + 1) t

/-- A list of the TLVs read one after another until an offset is reached. -/
inductive TlvRun (der : List UInt8) (stop : Nat) : Nat → List Tlv → Prop
  | done {off : Nat} (hoff : stop ≤ off) : TlvRun der stop off []
  | read {off : Nat} {t : Tlv} {ts : List Tlv} (hoff : off < stop)
    (hread : readTlv der off = .ok t) (hrest : TlvRun der stop t.stop ts) :
    TlvRun der stop off (t :: ts)

variable {der : List UInt8}

/-- The run of an offset is one. -/
theorem TlvRun.nth_iff {stop off : Nat} {ts : List Tlv} (h : TlvRun der stop off ts) (n : Nat)
    (t : Tlv) : NthTlv der stop off n t ↔ ts[n]? = some t := by
  induction h generalizing n with
  -- at the end of the run nothing is read
  | done hoff =>
    constructor
    · intro hnth
      cases hnth <;> omega
    · intro hget
      cases hget
  -- the reader is a function, so both give the same first TLV
  | read hoff hread _ ih =>
    cases n with
    | zero =>
      constructor
      · rintro (⟨-, hread'⟩)
        rw [hread] at hread'
        cases hread'
        rfl
      · intro hget
        cases hget
        exact .here hoff hread
    | succ n =>
      rw [List.getElem?_cons_succ, ← ih]
      constructor
      · rintro (_ | ⟨-, hread', hrest⟩)
        rw [hread] at hread'
        cases hread'
        exact hrest
      · exact .later hoff hread

/-- A TLV of a run has a place in it. -/
theorem TlvRun.exists_nth {stop off : Nat} {ts : List Tlv} (h : TlvRun der stop off ts) {t : Tlv}
    (ht : t ∈ ts) : ∃ n, NthTlv der stop off n t := by
  obtain ⟨n, hn⟩ := List.mem_iff_getElem?.mp ht
  exact ⟨n, (h.nth_iff n t).mpr hn⟩

/-- And the one at a place is of the run. -/
theorem TlvRun.mem_of_nth {stop off n : Nat} {ts : List Tlv} (h : TlvRun der stop off ts) {t : Tlv}
    (ht : NthTlv der stop off n t) : t ∈ ts :=
  List.mem_of_getElem? ((h.nth_iff n t).mp ht)

/-- A run goes forward. -/
theorem TlvRun.start_le {stop off : Nat} {ts : List Tlv} (h : TlvRun der stop off ts) :
    ∀ t ∈ ts, off ≤ t.start := by
  induction h with
  | done => exact fun t ht => absurd ht List.not_mem_nil
  | read hoff hread _ ih =>
    have hspec := readTlv_spec hread
    have hnext := hspec.header.trans hspec.content
    intro t' ht'
    -- the first begins here, the others behind it
    rcases List.mem_cons.mp ht' with rfl | ht'
    · exact hspec.start.ge
    · have := ih t' ht'
      unfold Tlv.stop at this
      omega

/-- The extensions are a run of TLVs. -/
theorem walkExtensions_run {stop fuel off : Nat} {exts : List ExtensionWalk}
    (h : walkExtensions der stop fuel off = .ok exts) :
    TlvRun der stop off (exts.map (·.ext)) ∧ ∀ ext ∈ exts, ∃ off, ext.Read der off := by
  induction fuel generalizing off exts with
  | zero =>
    unfold walkExtensions at h
    split at h
    · cases h
    · cases h
      exact ⟨.done (by omega), fun ext hext => absurd hext List.not_mem_nil⟩
  | succ fuel ih =>
    unfold walkExtensions at h
    split at h
    -- one extension, and the rest behind it
    · rename_i hoff
      obtain ⟨ext, hext, h⟩ := bind_ok h
      obtain ⟨rest, hrest, h⟩ := bind_ok h
      cases h
      obtain ⟨hrun, hreads⟩ := ih hrest
      refine ⟨.read hoff (walkExtension_read hext).ext hrun, ?_⟩
      rw [List.forall_mem_cons]
      exact ⟨⟨off, walkExtension_read hext⟩, hreads⟩
    · cases h
      exact ⟨.done (by omega), fun ext hext => absurd hext List.not_mem_nil⟩

/-- So are the TLVs after the key. -/
theorem walkTail_run {stop fuel off : Nat} {tail : List TailWalk}
    (h : walkTail der stop fuel off = .ok tail) :
    TlvRun der stop off (tail.map (·.tlv)) ∧
      ∀ t ∈ tail, ∃ off, walkTailTlv der off = .ok t := by
  induction fuel generalizing off tail with
  | zero =>
    unfold walkTail at h
    split at h
    · cases h
    · cases h
      exact ⟨.done (by omega), fun t ht => absurd ht List.not_mem_nil⟩
  | succ fuel ih =>
    unfold walkTail at h
    split at h
    -- one element, and the rest behind it
    · rename_i hoff
      obtain ⟨t, ht, h⟩ := bind_ok h
      obtain ⟨rest, hrest, h⟩ := bind_ok h
      cases h
      obtain ⟨hrun, hreads⟩ := ih hrest
      refine ⟨.read hoff (walkTailTlv_read ht) hrun, ?_⟩
      rw [List.forall_mem_cons]
      exact ⟨⟨off, ht⟩, hreads⟩
    · cases h
      exact ⟨.done (by omega), fun t ht => absurd ht List.not_mem_nil⟩

/-! ## The condition -/

variable (der)

/-- The TLVs read one after another in a content do not pass its end. -/
def Fills (parent : Tlv) : Prop :=
  ∀ n t, NthTlv der parent.contentEnd parent.contentStart n t → t.contentEnd ≤ parent.contentEnd

/-- The first TLV of a content does not pass its end. -/
def FirstFits (parent : Tlv) : Prop :=
  ∀ t, readTlv der parent.contentStart = .ok t → t.contentEnd ≤ parent.contentEnd

/-- The id of an extension, what follows it, and the value do not pass its end. -/
structure ExtensionFits (ext : Tlv) : Prop where
  id : FirstFits der ext
  next : ∀ id next, readTlv der ext.contentStart = .ok id → readTlv der id.stop = .ok next →
    next.contentEnd ≤ ext.contentEnd
  value : ∀ id next value, readTlv der ext.contentStart = .ok id → readTlv der id.stop = .ok next →
    readTlv der (if next.tag = TAG_BOOLEAN then next.stop else id.stop) = .ok value →
    value.contentEnd ≤ ext.contentEnd ∧
      (hexOf der id.start id.stop = .ok OID.basicConstraints →
        FirstFits der value ∧ ∀ c, readTlv der value.contentStart = .ok c →
          c.contentStart < c.contentEnd → FirstFits der c)

/-- The same of a list of extensions. -/
structure ExtensionsFit (t : Tlv) : Prop where
  list : FirstFits der t
  extensions : ∀ list, readTlv der t.contentStart = .ok list → Fills der list ∧
    ∀ n ext, NthTlv der list.contentEnd list.contentStart n ext → ExtensionFits der ext

/-- How many TLVs stand before the key in the signed bytes: one more with a version. -/
def keyIndex (tbs : Tlv) : Nat := if der[tbs.contentStart]? = some 0xa0 then 6 else 5

/-- In the signed bytes, and in each list of extensions, no TLV passes the end of what it is
    read in. Nor does the first one of the algorithm and of the key, and no part of an
    extension. -/
structure FitsInside (tbs sigAlg : Tlv) : Prop where
  alg : FirstFits der sigAlg
  content : Fills der tbs
  key : ∀ spki, NthTlv der tbs.contentEnd tbs.contentStart (keyIndex der tbs) spki →
    FirstFits der spki
  extensions : ∀ n t, NthTlv der tbs.contentEnd tbs.contentStart n t → t.tag = TAG_EXTENSIONS →
    ExtensionsFit der t

/-- The same, from the bytes alone. -/
def BytesFit : Prop :=
  ∀ cert tbs sigAlg, readTlv der 0 = .ok cert → readTlv der cert.contentStart = .ok tbs →
    readTlv der tbs.stop = .ok sigAlg → FitsInside der tbs sigAlg

/-! ## Extensions -/

variable {der}

/-- What was read of a basicConstraints value: its first TLV is one where it has content. -/
structure ConstraintsWalk.Read (der : List UInt8) (value : Tlv) (walk : ConstraintsWalk) : Prop where
  constraints : readTlv der value.contentStart = .ok walk.constraints
  first : ∀ t, walk.first = some t ↔ walk.constraints.contentStart < walk.constraints.contentEnd ∧
    readTlv der walk.constraints.contentStart = .ok t

/-- What the walk of the constraints has read. -/
theorem walkConstraints_read {value : Tlv} {walk : ConstraintsWalk}
    (h : walkConstraints der value = .ok walk) : walk.Read der value := by
  obtain ⟨constraints, hread, h⟩ := bind_ok h
  have hread := (readTagged_spec hread).1
  split at h
  · rename_i hcontent
    cases hca : readTlv der constraints.contentStart with
    | ok ca =>
      rw [hca] at h
      dsimp only at h
      -- the byte of the flag is read for a boolean and not kept
      have hfirst : walk.constraints = constraints ∧ walk.first = some ca := by
        split at h
        · obtain ⟨byte, -, h⟩ := bind_ok h
          cases h
          exact ⟨rfl, rfl⟩
        · cases h
          exact ⟨rfl, rfl⟩
      obtain ⟨rfl, hfirst⟩ := hfirst
      refine ⟨hread, fun t => ?_⟩
      rw [hfirst, hca]
      simp [hcontent]
    | error stop =>
      rw [hca] at h
      cases stop with
      -- a TLV that does not parse is left out; the other stops end the walk
      | refused =>
        cases h
        exact ⟨hread, fun t => by simp [hca]⟩
      | outside => cases h
      | unfinished => cases h
  · rename_i hcontent
    cases h
    exact ⟨hread, fun t => by simp [hcontent]⟩

/-- They are read of one extension and of no other. -/
theorem constraintsOf_read {hex : String} {value : Tlv} {constraints : Option ConstraintsWalk}
    (h : constraintsOf der hex value = .ok constraints) :
    (hex = OID.basicConstraints → ∃ c, constraints = some c) ∧
      ∀ c ∈ constraints, hex = OID.basicConstraints ∧ c.Read der value := by
  unfold constraintsOf at h
  split at h
  · rename_i hhex
    cases hwalk : walkConstraints der value with
    | error stop =>
      rw [hwalk] at h
      cases h
    | ok c =>
      rw [hwalk] at h
      cases h
      refine ⟨fun _ => ⟨c, rfl⟩, fun c' hc' => ?_⟩
      cases hc'
      exact ⟨hhex, walkConstraints_read hwalk⟩
  · rename_i hhex
    cases h
    exact ⟨fun h => absurd h hhex, fun c hc => by cases hc⟩

/-- The part of a TLV that starts where its content does. -/
theorem in_of_first {off : Nat} {child parent : Tlv} (h : TlvAt der off child)
    (hoff : parent.contentStart ≤ off) (hfits : child.contentEnd ≤ parent.contentEnd) :
    child.In parent :=
  ⟨h.start ▸ hoff, hfits⟩

/-- An extension is nested exactly where its parts do not pass its end. -/
theorem ExtensionWalk.Read.nested_iff {off : Nat} {walk : ExtensionWalk} (h : walk.Read der off) :
    walk.Nested ↔ ExtensionFits der walk.ext := by
  have hid := readTlv_spec h.id
  have hcritical := readTlv_spec h.maybeCritical
  have hvalue := readTlv_spec h.value
  constructor
  · intro hnested
    refine ⟨fun t ht => ?_, fun id next hid' hnext => ?_, fun id next value hid' hnext hvalue' => ?_⟩
    · rw [h.id] at ht
      cases ht
      exact hnested.id.stop
    · rw [h.id] at hid'
      cases hid'
      rw [h.maybeCritical] at hnext
      cases hnext
      exact hnested.maybeCritical.stop
    · rw [h.id] at hid'
      cases hid'
      rw [h.maybeCritical] at hnext
      cases hnext
      rw [h.value] at hvalue'
      cases hvalue'
      -- only basicConstraints has its value opened
      refine ⟨hnested.value.stop, fun hhex => ?_⟩
      rw [h.idHex] at hhex
      obtain ⟨hsome, hreads⟩ := constraintsOf_read h.constraints
      obtain ⟨c, hc⟩ := hsome (Except.ok.inj hhex)
      obtain ⟨-, hread⟩ := hreads c hc
      obtain ⟨hin, hfirst⟩ := hnested.constraints c hc
      refine ⟨fun t ht => ?_, fun c' hc' hcontent t ht => ?_⟩
      · rw [hread.constraints] at ht
        cases ht
        exact hin.stop
      · rw [hread.constraints] at hc'
        cases hc'
        exact (hfirst t ((hread.first t).mpr ⟨hcontent, ht⟩)).stop
  · intro hfits
    -- each part starts where the one before it stops
    have hids := hid.header.trans hid.content
    have hcriticals := hcritical.header.trans hcritical.content
    obtain ⟨hvalueFits, hconstraints⟩ := hfits.value _ _ _ h.id h.maybeCritical h.value
    refine ⟨in_of_first hid le_rfl (hfits.id _ h.id), ?_, ?_, fun c hc => ?_⟩
    · refine in_of_first hcritical ?_ (hfits.next _ _ h.id h.maybeCritical)
      unfold Tlv.stop
      omega
    · refine in_of_first hvalue ?_ hvalueFits
      unfold Tlv.stop at hcriticals ⊢
      split <;> omega
    · obtain ⟨hhex, hread⟩ := (constraintsOf_read h.constraints).2 c hc
      obtain ⟨hvalueFirst, hfirst⟩ := hconstraints (by rw [h.idHex, hhex])
      refine ⟨in_of_first (readTlv_spec hread.constraints) le_rfl
        (hvalueFirst _ hread.constraints), fun first hfirst' => ?_⟩
      obtain ⟨hcontent, ht⟩ := (hread.first first).mp hfirst'
      exact in_of_first (readTlv_spec ht) le_rfl
        (hfirst _ hread.constraints hcontent first ht)

/-- A list of extensions is nested exactly where none passes the end of it, and none of its
    parts the extension's. -/
theorem walkTailTlv_nested_iff {off : Nat} {walk : TailWalk}
    (h : walkTailTlv der off = .ok walk) :
    walk.Nested ↔ (walk.tlv.tag = TAG_EXTENSIONS → ExtensionsFit der walk.tlv) := by
  obtain ⟨t, hread, h⟩ := bind_ok h
  split at h
  · -- the tail is the extensions, or something the walk does not open
    rename_i htag
    obtain ⟨list, hlist, h⟩ := bind_ok h
    obtain ⟨exts, hexts, h⟩ := bind_ok h
    cases h
    have hlist := (readTagged_spec hlist).1
    have hspec := readTlv_spec hlist
    obtain ⟨hrun, hreads⟩ := walkExtensions_run hexts
    constructor
    · intro hnested _
      obtain ⟨hin, hall⟩ := hnested.extensions _ rfl
      refine ⟨fun t' ht' => ?_, fun list' hlist' => ?_⟩
      · rw [hlist] at ht'
        cases ht'
        exact hin.stop
      · rw [hlist] at hlist'
        cases hlist'
        refine ⟨fun n t' ht' => ?_, fun n t' ht' => ?_⟩
        · obtain ⟨ext, hext, rfl⟩ := List.mem_map.mp (hrun.mem_of_nth ht')
          exact (hall ext hext).1.stop
        · obtain ⟨ext, hext, rfl⟩ := List.mem_map.mp (hrun.mem_of_nth ht')
          obtain ⟨off', hextRead⟩ := hreads ext hext
          exact hextRead.nested_iff.mp (hall ext hext).2
    · intro hfits
      obtain ⟨hfirst, hlists⟩ := hfits htag
      obtain ⟨hfills, hall⟩ := hlists list hlist
      refine ⟨fun e he => ?_⟩
      cases he
      refine ⟨in_of_first hspec le_rfl (hfirst list hlist), fun ext hext => ?_⟩
      have hmem : ext.ext ∈ exts.map (·.ext) := List.mem_map.mpr ⟨ext, hext, rfl⟩
      obtain ⟨n, hnth⟩ := hrun.exists_nth hmem
      obtain ⟨off', hextRead⟩ := hreads ext hext
      exact ⟨⟨hrun.start_le _ hmem, hfills n _ hnth⟩,
        hextRead.nested_iff.mpr (hall n _ hnth)⟩
  · rename_i htag
    cases h
    exact ⟨fun _ h => absurd h htag, fun _ => ⟨fun e he => by cases he⟩⟩

/-! ## What the code checks -/

/-- A TLV that ends where the next one starts, which ends in time. -/
theorem in_of_next {off : Nat} {child next parent : Tlv} (h : TlvAt der off child)
    (hnext : TlvAt der child.stop next) (hoff : parent.contentStart ≤ off)
    (hfits : next.contentEnd ≤ parent.contentEnd) : child.In parent := by
  refine ⟨h.start ▸ hoff, ?_⟩
  have := hnext.header.trans hnext.content
  unfold Tlv.stop at this
  omega

/-- The two times lie in the validity. -/
theorem ValidityWalk.Read.nested {off : Nat} {walk : ValidityWalk} (h : walk.Read der off) :
    walk.notBefore.In walk.validity ∧ walk.notAfter.In walk.validity := by
  have hbefore := readTlv_spec h.notBefore
  have hafter := readTlv_spec h.notAfter
  refine ⟨in_of_next hbefore hafter le_rfl h.ends.le, in_of_first hafter ?_ h.ends.le⟩
  have := hbefore.header.trans hbefore.content
  unfold Tlv.stop
  omega

/-- The key type and the curve lie in the algorithm. -/
theorem SpkiWalk.Read.nested {off : Nat} {walk : SpkiWalk} (h : walk.Read der off) :
    walk.keyType.In walk.alg ∧ walk.curveOid.In walk.alg := by
  have hkey := readTlv_spec (readTagged_spec h.keyType).1
  have hcurve := readTlv_spec (readTagged_spec h.curveOid).1
  refine ⟨in_of_next hkey hcurve le_rfl h.ends.le, in_of_first hcurve ?_ h.ends.le⟩
  have := hkey.header.trans hkey.content
  unfold Tlv.stop
  omega

/-- What is signed and its signature fill the certificate. -/
theorem CertificateWalk.Read.outer {walk : CertificateWalk} (h : walk.Read der) :
    walk.tbs.In walk.cert ∧ walk.signature.alg.In walk.cert ∧
      walk.signature.value.In walk.cert := by
  have htbs := readTlv_spec (readTagged_spec h.tbs).1
  have halg := readTlv_spec (readTagged_spec h.signature.alg).1
  have hvalue := readTlv_spec (readTagged_spec h.signature.value).1
  -- the signature ends where the certificate ends, and so do the three in turn
  have hends := h.signature.ends
  have htbsEnd := htbs.header.trans htbs.content
  have halgEnd := halg.header.trans halg.content
  have hvalueEnd := hvalue.header.trans hvalue.content
  unfold Tlv.stop at halgEnd hvalueEnd
  refine ⟨in_of_first htbs le_rfl (by omega), in_of_first halg ?_ (by omega),
    in_of_first hvalue ?_ (by omega)⟩
  · unfold Tlv.stop
    omega
  · unfold Tlv.stop
    omega

/-! ## The signed bytes -/

/-- A TLV has the tag it was read with. -/
theorem tlvOf_tag {buf : List UInt8} {tag : UInt8} {off p len : Nat} {t : Tlv}
    (h : tlvOf buf tag off p len = .ok t) : t.tag = tag := by
  unfold tlvOf at h
  split at h
  · cases h
  · cases h
    rfl

/-- A byte that is read is there. -/
theorem byteAt_ok {buf : List UInt8} {i : Nat} {byte : UInt8} (h : byteAt buf i = .ok byte) :
    buf[i]? = some byte := by
  unfold byteAt at h
  split at h
  · cases h
    assumption
  · cases h

/-- A TLV's tag is its first byte. -/
theorem readTlv_tag {buf : List UInt8} {off : Nat} {t : Tlv} (h : readTlv buf off = .ok t) :
    buf[off]? = some t.tag := by
  unfold readTlv at h
  split at h
  · cases h
  · obtain ⟨tag, htag, h⟩ := bind_ok h
    rw [byteAt_ok htag]
    split at h
    · cases h
    · obtain ⟨first, -, h⟩ := bind_ok h
      split at h
      · rw [tlvOf_tag h]
      · dsimp only at h
        split at h
        · cases h
        · obtain ⟨len, -, h⟩ := bind_ok h
          split at h
          · cases h
          · rw [tlvOf_tag h]

/-- A version is read where its byte is. -/
theorem readVersion_spec {tbs : Tlv} {version : Option Tlv}
    (h : readVersion der tbs = .ok version) :
    version = none ∧
        (tbs.contentStart < tbs.contentEnd → der[tbs.contentStart]? ≠ some 0xa0) ∨
      ∃ t, version = some t ∧ tbs.contentStart < tbs.contentEnd ∧
        der[tbs.contentStart]? = some 0xa0 ∧ readTlv der tbs.contentStart = .ok t := by
  unfold readVersion at h
  split at h
  · rename_i hcontent
    obtain ⟨byte, hbyte, h⟩ := bind_ok h
    have hbyte := byteAt_ok hbyte
    split at h
    · -- the explicit tag of the version
      rename_i htag
      subst htag
      cases hread : readTlv der tbs.contentStart with
      | error stop =>
        rw [hread] at h
        cases h
      | ok t =>
        rw [hread] at h
        cases h
        exact .inr ⟨t, rfl, hcontent, hbyte, rfl⟩
    · rename_i htag
      cases h
      refine .inl ⟨rfl, fun _ hversion => htag ?_⟩
      rw [hbyte] at hversion
      exact Option.some.inj hversion
  · rename_i hcontent
    cases h
    exact .inl ⟨rfl, fun h => absurd h hcontent⟩

/-- A TLV that is in the content stands in its run before what follows it. -/
theorem TlvRun.cons {stop off : Nat} {t : Tlv} {ts : List Tlv} (hread : readTlv der off = .ok t)
    (hfits : t.contentEnd ≤ stop) (hrest : TlvRun der stop t.stop ts) :
    TlvRun der stop off (t :: ts) := by
  have hspec := readTlv_spec hread
  have := hspec.header.trans hspec.content
  exact .read (by omega) hread hrest

/-- The TLVs of the signed bytes, in order. -/
def CertificateWalk.signed (walk : CertificateWalk) : List Tlv :=
  walk.version.toList ++
    [walk.serial, walk.innerSigAlg, walk.issuer, walk.validity.validity, walk.subject,
      walk.spki.spki] ++ walk.tail.map (·.tlv)

/-- In a nested certificate they are the run of the signed bytes. -/
theorem CertificateWalk.Read.run {walk : CertificateWalk} (h : walk.Read der)
    (hnested : walk.Nested) :
    TlvRun der walk.tbs.contentEnd walk.tbs.contentStart walk.signed := by
  have hkey := (walkTail_run h.tail).1
  have hspki := TlvRun.cons (readTagged_spec h.spki.spki).1 hnested.spki.stop hkey
  have hsubject := TlvRun.cons (readTagged_spec h.subject).1 hnested.subject.stop hspki
  have hvalidity := TlvRun.cons (readTagged_spec h.validity.validity).1 hnested.validity.stop hsubject
  have hissuer := TlvRun.cons (readTagged_spec h.issuer).1 hnested.issuer.stop hvalidity
  have hinner := TlvRun.cons (readTagged_spec h.innerSigAlg).1 hnested.innerSigAlg.stop hissuer
  have hserial := TlvRun.cons (readTagged_spec h.serial).1 hnested.serial.stop hinner
  unfold CertificateWalk.signed
  rcases readVersion_spec h.version with ⟨hnone, -⟩ | ⟨t, hsome, -, -, hread⟩
  · rw [hnone] at hserial ⊢
    exact hserial
  · rw [hsome] at hserial ⊢
    exact TlvRun.cons hread (hnested.version t hsome).stop hserial

/-! ## A nested certificate fits -/

/-- What the run of a nested certificate reads lies in the signed bytes. -/
theorem CertificateWalk.Nested.signed_in {walk : CertificateWalk} (h : walk.Nested) {t : Tlv}
    (ht : t ∈ walk.signed) : t.In walk.tbs := by
  simp only [CertificateWalk.signed, List.mem_append, Option.mem_toList, List.mem_cons,
    List.not_mem_nil, or_false, List.mem_map] at ht
  rcases ht with (hversion | rfl | rfl | rfl | rfl | rfl | rfl) | ⟨tail, htail, rfl⟩
  · exact h.version t hversion
  · exact h.serial
  · exact h.innerSigAlg
  · exact h.issuer
  · exact h.validity
  · exact h.subject
  · exact h.spki
  · exact (h.tail tail htail).1

/-- The key stands where a version puts it. -/
theorem CertificateWalk.Read.signed_key {walk : CertificateWalk} (h : walk.Read der)
    (hcontent : walk.tbs.contentStart < walk.tbs.contentEnd) :
    walk.signed[keyIndex der walk.tbs]? = some walk.spki.spki := by
  unfold keyIndex CertificateWalk.signed
  rcases readVersion_spec h.version with ⟨hnone, hbyte⟩ | ⟨t, hsome, -, hbyte, -⟩
  · rw [hnone, if_neg (hbyte hcontent)]
    rfl
  · rw [hsome, if_pos hbyte]
    rfl

/-- Only the tail has a `[3]`. -/
theorem CertificateWalk.Read.tail_of_tag {walk : CertificateWalk} (h : walk.Read der) {t : Tlv}
    (ht : t ∈ walk.signed) (htag : t.tag = TAG_EXTENSIONS) : ∃ tail ∈ walk.tail, tail.tlv = t := by
  simp only [CertificateWalk.signed, List.mem_append, Option.mem_toList, List.mem_cons,
    List.not_mem_nil, or_false, List.mem_map] at ht
  -- the elements before the tail were read under tags of their own
  rcases ht with (hversion | rfl | rfl | rfl | rfl | rfl | rfl) | htail
  · rcases readVersion_spec h.version with ⟨hnone, -⟩ | ⟨v, hsome, -, hbyte, hread⟩
    · rw [hnone] at hversion
      cases hversion
    · rw [hsome] at hversion
      cases hversion
      rw [readTlv_tag hread, htag] at hbyte
      exact absurd hbyte (by decide)
  · exact absurd ((readTagged_spec h.serial).2.symm.trans htag) (by decide)
  · exact absurd ((readTagged_spec h.innerSigAlg).2.symm.trans htag) (by decide)
  · exact absurd ((readTagged_spec h.issuer).2.symm.trans htag) (by decide)
  · exact absurd ((readTagged_spec h.validity.validity).2.symm.trans htag) (by decide)
  · exact absurd ((readTagged_spec h.subject).2.symm.trans htag) (by decide)
  · exact absurd ((readTagged_spec h.spki.spki).2.symm.trans htag) (by decide)
  · exact htail

/-- Where all is nested, the signed bytes hold the algorithm's TLV. -/
theorem CertificateWalk.Read.fits {walk : CertificateWalk} (h : walk.Read der)
    (hnested : walk.Nested) : FitsInside der walk.tbs walk.signature.alg := by
  have hrun := h.run hnested
  have hcontent : walk.tbs.contentStart < walk.tbs.contentEnd := by
    have hspec := readTlv_spec (readTagged_spec h.serial).1
    have := hspec.header.trans hspec.content
    have := hspec.start
    have := hnested.serial.start
    have := hnested.serial.stop
    omega
  refine ⟨fun t ht => ?_, fun n t ht => ?_, fun spki hspki t ht => ?_, fun n t ht htag => ?_⟩
  · rw [(readTagged_spec h.signature.oid).1] at ht
    cases ht
    exact hnested.sigAlgOid.stop
  · exact (hnested.signed_in (hrun.mem_of_nth ht)).stop
  · rw [hrun.nth_iff, h.signed_key hcontent] at hspki
    cases hspki
    rw [(readTagged_spec h.spki.alg).1] at ht
    cases ht
    exact hnested.spkiAlg.stop
  · obtain ⟨tail, htail, rfl⟩ := h.tail_of_tag (hrun.mem_of_nth ht) htag
    obtain ⟨off, hread⟩ := (walkTail_run h.tail).2 tail htail
    exact (walkTailTlv_nested_iff hread).mp (hnested.tail tail htail).2 htag

/-! ## A certificate that fits is nested -/

/-- The TLVs read from an offset on are those of a content, from the `k`-th. -/
structure Reaches (der : List UInt8) (parent : Tlv) (k off : Nat) : Prop where
  low : parent.contentStart ≤ off
  high : off ≤ parent.contentEnd
  nth : ∀ n t, NthTlv der parent.contentEnd off n t →
    NthTlv der parent.contentEnd parent.contentStart (n + k) t

/-- A parent's content is reached at its start, before any element. -/
theorem Reaches.start {parent : Tlv} (h : parent.contentStart ≤ parent.contentEnd) :
    Reaches der parent 0 parent.contentStart :=
  ⟨le_rfl, h, fun _ _ h => h⟩

/-- A TLV read before the end of a content that is filled lies in it, and the next one is
    read from there. -/
theorem Reaches.step {parent : Tlv} {k off : Nat} {t : Tlv} (h : Reaches der parent k off)
    (hfills : Fills der parent) (hread : readTlv der off = .ok t) (hoff : off ≠ parent.contentEnd) :
    t.In parent ∧ NthTlv der parent.contentEnd parent.contentStart k t ∧
      Reaches der parent (k + 1) t.stop := by
  have hspec := readTlv_spec hread
  have hlt : off < parent.contentEnd := lt_of_le_of_ne h.high hoff
  have hnth : NthTlv der parent.contentEnd parent.contentStart k t := by
    have := h.nth 0 t (.here hlt hread)
    rwa [Nat.zero_add] at this
  -- the next element of a parent that its elements fill lies inside it
  have hin : t.In parent := in_of_first hspec h.low (hfills k t hnth)
  have hnext := hspec.header.trans hspec.content
  refine ⟨hin, hnth, ⟨?_, hin.stop, fun n t' ht' => ?_⟩⟩
  · have := h.low
    unfold Tlv.stop
    omega
  · have := h.nth (n + 1) t' (.later hlt hread ht')
    rwa [Nat.add_right_comm] at this

/-- At the end of the signed bytes stands the signature's algorithm. -/
theorem CertificateWalk.Read.at_end {walk : CertificateWalk} (h : walk.Read der) {tag : UInt8}
    {t : Tlv} (hread : readTagged der walk.tbs.contentEnd tag = .ok t) :
    t = walk.signature.alg ∧ tag = TAG_SEQUENCE :=
  readTagged_det hread h.signature.alg

/-- Behind the algorithm stands the signature. So a SEQUENCE with another one behind it starts
    before the end. -/
theorem CertificateWalk.Read.ne_end {walk : CertificateWalk} (h : walk.Read der) {off : Nat}
    {t next : Tlv} (hread : readTagged der off TAG_SEQUENCE = .ok t)
    (hnext : readTagged der t.stop TAG_SEQUENCE = .ok next) : off ≠ walk.tbs.contentEnd := by
  rintro rfl
  obtain ⟨rfl, -⟩ := h.at_end hread
  exact absurd (readTagged_det hnext h.signature.value).2 (by decide)

/-- In the algorithm stands an OBJECT IDENTIFIER, so one that holds a SEQUENCE does too. -/
theorem CertificateWalk.Read.ne_end_of_first {walk : CertificateWalk} (h : walk.Read der)
    {off : Nat} {t first : Tlv} (hread : readTagged der off TAG_SEQUENCE = .ok t)
    (hfirst : readTagged der t.contentStart TAG_SEQUENCE = .ok first) :
    off ≠ walk.tbs.contentEnd := by
  rintro rfl
  obtain ⟨rfl, -⟩ := h.at_end hread
  exact absurd (readTagged_det hfirst h.signature.oid).2 (by decide)

/-- And so does an INTEGER. -/
theorem CertificateWalk.Read.ne_end_of_integer {walk : CertificateWalk} (h : walk.Read der)
    {off : Nat} {t : Tlv} (hread : readTagged der off TAG_INTEGER = .ok t) :
    off ≠ walk.tbs.contentEnd := by
  rintro rfl
  exact absurd (h.at_end hread).2 (by decide)

/-- The version is read within the signed bytes, and the serial after it. -/
theorem CertificateWalk.Read.reaches_serial {walk : CertificateWalk} (h : walk.Read der)
    (hfills : Fills der walk.tbs) :
    (∀ version ∈ walk.version, version.In walk.tbs) ∧
      Reaches der walk.tbs walk.version.toList.length
        ((walk.version.map (·.stop)).getD walk.tbs.contentStart) := by
  have hstart : Reaches der walk.tbs 0 walk.tbs.contentStart :=
    .start (readTlv_spec (readTagged_spec h.tbs).1).content
  rcases readVersion_spec h.version with ⟨hnone, -⟩ | ⟨t, hsome, hcontent, -, hread⟩
  · rw [hnone]
    refine ⟨fun version hversion => ?_, hstart⟩
    cases hversion
  · obtain ⟨hin, -, hreaches⟩ := hstart.step hfills hread hcontent.ne
    rw [hsome]
    refine ⟨fun version hversion => ?_, hreaches⟩
    cases hversion
    exact hin

/-- The index of the key is past the version and five more. -/
theorem CertificateWalk.Read.keyIndex_eq {walk : CertificateWalk} (h : walk.Read der)
    (hcontent : walk.tbs.contentStart < walk.tbs.contentEnd) :
    keyIndex der walk.tbs = walk.version.toList.length + 5 := by
  unfold keyIndex
  rcases readVersion_spec h.version with ⟨hnone, hbyte⟩ | ⟨t, hsome, -, hbyte, -⟩
  · rw [hnone, if_neg (hbyte hcontent)]
    rfl
  · rw [hsome, if_pos hbyte]
    rfl

/-- A certificate that fits in its bytes is walked inside them. -/
theorem CertificateWalk.Read.nested {walk : CertificateWalk} (h : walk.Read der)
    (hfits : FitsInside der walk.tbs walk.signature.alg) : walk.Nested := by
  obtain ⟨halg, hfills, hkeyFits, htailFits⟩ := hfits
  obtain ⟨htbs, hsigAlg, hsigValue⟩ := h.outer
  obtain ⟨hversion, hreaches⟩ := h.reaches_serial hfills
  -- Each TLV of the signed bytes starts before their end, so it lies in them.
  obtain ⟨hserial, -, hreaches⟩ :=
    hreaches.step hfills (readTagged_spec h.serial).1 (h.ne_end_of_integer h.serial)
  obtain ⟨hinner, -, hreaches⟩ :=
    hreaches.step hfills (readTagged_spec h.innerSigAlg).1 (h.ne_end h.innerSigAlg h.issuer)
  obtain ⟨hissuer, -, hreaches⟩ :=
    hreaches.step hfills (readTagged_spec h.issuer).1 (h.ne_end h.issuer h.validity.validity)
  obtain ⟨hvalidity, -, hreaches⟩ := hreaches.step hfills
    (readTagged_spec h.validity.validity).1 (h.ne_end h.validity.validity h.subject)
  obtain ⟨hsubject, -, hreaches⟩ :=
    hreaches.step hfills (readTagged_spec h.subject).1 (h.ne_end h.subject h.spki.spki)
  obtain ⟨hspki, hkey, hreaches⟩ :=
    hreaches.step hfills (readTagged_spec h.spki.spki).1 (h.ne_end_of_first h.spki.spki h.spki.alg)
  have hcontent : walk.tbs.contentStart < walk.tbs.contentEnd := by
    have hspec := readTlv_spec (readTagged_spec h.serial).1
    have := hspec.header.trans hspec.content
    have := hspec.start
    have := hserial.start
    have := hserial.stop
    omega
  -- the key is found again by its place in the run
  have hspkiAlg : walk.spki.alg.In walk.spki.spki := by
    have hread := (readTagged_spec h.spki.alg).1
    have hindex : walk.version.toList.length + 1 + 1 + 1 + 1 + 1 = keyIndex der walk.tbs :=
      (h.keyIndex_eq hcontent).symm
    rw [hindex] at hkey
    exact in_of_first (readTlv_spec hread) le_rfl (hkeyFits _ hkey _ hread)
  have hoid := (readTagged_spec h.signature.oid).1
  refine ⟨htbs, hsigAlg, in_of_first (readTlv_spec hoid) le_rfl (halg _ hoid), hsigValue, hversion,
    hserial, hinner, hissuer, hvalidity, h.validity.nested.1, h.validity.nested.2, hsubject, hspki,
    hspkiAlg, h.spki.nested.1, h.spki.nested.2, fun t ht => ?_⟩
  -- What follows the key is the rest of the same run.
  obtain ⟨hrun, hreads⟩ := walkTail_run h.tail
  have hmem : t.tlv ∈ walk.tail.map (·.tlv) := List.mem_map.mpr ⟨t, ht, rfl⟩
  obtain ⟨n, hnth⟩ := hrun.exists_nth hmem
  have hnth := hreaches.nth n _ hnth
  obtain ⟨off, hread⟩ := hreads t ht
  refine ⟨⟨hreaches.low.trans (hrun.start_le _ hmem), hfills _ _ hnth⟩, ?_⟩
  exact (walkTailTlv_nested_iff hread).mpr (htailFits _ _ hnth)

/-! ## What is covered -/

/-- An element inside an element of a third lies inside the third. -/
theorem Tlv.In.trans {a b c : Tlv} (hab : a.In b) (hbc : b.In c) (hb : b.start ≤ b.contentStart) :
    a.In c :=
  ⟨hbc.start.trans (hb.trans hab.start), hab.stop.trans hbc.stop⟩

/-- An element's content starts behind its header. -/
theorem TlvAt.start_le {off : Nat} {t : Tlv} (h : TlvAt der off t) : t.start ≤ t.contentStart := by
  have := h.start
  have := h.header
  omega

/-- The extensions of a TLV, as they were read. -/
theorem walkTailTlv_extensions {off : Nat} {walk : TailWalk}
    (h : walkTailTlv der off = .ok walk) {e : Tlv × List ExtensionWalk}
    (he : walk.extensions = some e) :
    (∃ off, TlvAt der off e.1) ∧ ∀ ext ∈ e.2, ∃ off, ext.Read der off := by
  obtain ⟨t, -, h⟩ := bind_ok h
  split at h
  · obtain ⟨list, hlist, h⟩ := bind_ok h
    obtain ⟨exts, hexts, h⟩ := bind_ok h
    cases h
    cases he
    exact ⟨⟨_, readTlv_spec (readTagged_spec hlist).1⟩, (walkExtensions_run hexts).2⟩
  · cases h
    cases he

/-- What decides `cA` lies in the extension. -/
theorem ExtensionWalk.Read.constraints_in {off : Nat} {walk : ExtensionWalk}
    (h : walk.Read der off) (hnested : walk.Nested) {c : ConstraintsWalk}
    (hc : c ∈ walk.constraints) :
    c.constraints.In walk.ext ∧ ∀ first ∈ c.first, first.In walk.ext := by
  obtain ⟨hin, hfirst⟩ := hnested.constraints c hc
  obtain ⟨-, hread⟩ := (constraintsOf_read h.constraints).2 c hc
  have hconstraints := hin.trans hnested.value (readTlv_spec h.value).start_le
  refine ⟨hconstraints, fun first hf => ?_⟩
  exact (hfirst first hf).trans hconstraints (readTlv_spec hread.constraints).start_le

/-- Where every TLV lies in its parent, what the certificate is made of lies in the signed
    bytes. -/
theorem CertificateWalk.Read.covered {walk : CertificateWalk} (h : walk.Read der)
    (hnested : walk.Nested) : walk.Covered := by
  refine ⟨hnested.issuer, hnested.subject, hnested.validity, hnested.spki, fun ext hext => ?_⟩
  obtain ⟨t, ht, hext⟩ := List.mem_flatMap.mp hext
  obtain ⟨hin, htail⟩ := hnested.tail t ht
  obtain ⟨off, hread⟩ := (walkTail_run h.tail).2 t ht
  cases hexts : t.extensions with
  | none =>
    rw [hexts] at hext
    cases hext
  | some e =>
    rw [hexts] at hext
    obtain ⟨hlist, hall⟩ := htail.extensions e hexts
    obtain ⟨hextIn, hparts⟩ := hall ext hext
    obtain ⟨⟨_, hlistAt⟩, hreads⟩ := walkTailTlv_extensions hread hexts
    obtain ⟨_, hextRead⟩ := hreads ext hext
    have hextStart := (readTlv_spec hextRead.ext).start_le
    -- inside its list, which is inside the tail's element, inside the body
    have hextIn : ext.ext.In walk.tbs :=
      (hextIn.trans hlist hlistAt.start_le).trans hin (readTlv_spec (walkTailTlv_read hread)).start_le
    refine ⟨hparts.id.trans hextIn hextStart, fun c hc => ?_⟩
    obtain ⟨hc, hfirst⟩ := hextRead.constraints_in hparts hc
    exact ⟨hc.trans hextIn hextStart, fun first hf => (hfirst first hf).trans hextIn hextStart⟩

/-- The bytes decide which TLVs a certificate has. -/
theorem CertificateWalk.Read.bytesFit_iff {walk : CertificateWalk} (h : walk.Read der) :
    BytesFit der ↔ FitsInside der walk.tbs walk.signature.alg := by
  have hcert := (readTagged_spec h.cert).1
  have htbs := (readTagged_spec h.tbs).1
  have halg := (readTagged_spec h.signature.alg).1
  constructor
  · intro hfit
    exact hfit _ _ _ hcert htbs halg
  -- the bytes have one reading, which is the walk's
  · intro hfit cert tbs sigAlg hcert' htbs' halg'
    rw [hcert] at hcert'
    cases hcert'
    rw [htbs] at htbs'
    cases htbs'
    rw [halg] at halg'
    cases halg'
    exact hfit

/-- The parse ends on every input, and reads no byte outside it. The TLVs of a certificate it
    accepts lie in their parents, and what it returns in the signed bytes, exactly where the
    runs of TLVs fit. -/
theorem certificate_nested (der : List UInt8) :
    (∀ stop, parseCertificate der = .error stop → stop = .refused) ∧
      ∀ c, parseCertificate der = .ok c →
        ∃ walk, walkCertificate der = .ok walk ∧ c = walk.certificate der ∧
          (walk.Nested ∧ walk.Covered ↔ BytesFit der) := by
  refine ⟨(safe_walkCertificate der).map _, fun c hparse => ?_⟩
  unfold parseCertificate at hparse
  cases hwalk : walkCertificate der with
  | error stop =>
    rw [hwalk] at hparse
    cases hparse
  | ok walk =>
    rw [hwalk] at hparse
    cases hparse
    have hread := walkCertificate_read hwalk
    refine ⟨walk, rfl, rfl, ?_⟩
    -- the reads are functions of the bytes, so the condition is about this walk
    rw [hread.bytesFit_iff]
    constructor
    · intro hnested
      exact hread.fits hnested.1
    · intro hfits
      have hnested := hread.nested hfits
      exact ⟨hnested, hread.covered hnested⟩

/-- A certificate that signs what it says: its extension is a basicConstraints with `cA`. -/
def wellSigned : List UInt8 :=
  [0x30, 0x6e, 0x30, 0x5c, 0x02, 0x01, 0x01,
   0x30, 0x0a, 0x06, 0x08, 0x2a, 0x86, 0x48, 0xce, 0x3d, 0x04, 0x03, 0x02,
   0x30, 0x00,
   0x30, 0x1e,
   0x17, 0x0d, 0x32, 0x36, 0x30, 0x31, 0x30, 0x31, 0x30, 0x30, 0x30, 0x30, 0x30, 0x30, 0x5a,
   0x17, 0x0d, 0x32, 0x37, 0x30, 0x31, 0x30, 0x31, 0x30, 0x30, 0x30, 0x30, 0x30, 0x30, 0x5a,
   0x30, 0x00,
   0x30, 0x15, 0x30, 0x13, 0x06, 0x07, 0x2a, 0x86, 0x48, 0xce, 0x3d, 0x02, 0x01,
   0x06, 0x08, 0x2a, 0x86, 0x48, 0xce, 0x3d, 0x03, 0x01, 0x07,
   0xa3, 0x10, 0x30, 0x0e, 0x30, 0x0c, 0x06, 0x03, 0x55, 0x1d, 0x13,
   0x04, 0x05, 0x30, 0x03, 0x01, 0x01, 0xff,
   0x30, 0x0a, 0x06, 0x08, 0x2a, 0x86, 0x48, 0xce, 0x3d, 0x04, 0x03, 0x02,
   0x03, 0x02, 0x00, 0x00]

/-- The sample certificate is accepted, and its bytes fit. -/
theorem wellSigned_nested : ∃ c, parseCertificate wellSigned = .ok c ∧
    ∃ walk, walkCertificate wellSigned = .ok walk ∧ walk.isCa ∧ BytesFit wellSigned := by
  -- the walk of the sample is computed
  have hkernel : ((walkCertificate wellSigned).toOption.any fun walk =>
      decide walk.Nested && walk.isCa) = true := by
    decide +kernel
  cases hwalk : walkCertificate wellSigned with
  | error stop =>
    rw [hwalk] at hkernel
    cases hkernel
  | ok walk =>
    rw [hwalk] at hkernel
    have hwell : walk.Nested ∧ walk.isCa = true := by
      simpa [Except.toOption] using hkernel
    have hparse : parseCertificate wellSigned = .ok (walk.certificate wellSigned) := by
      rw [parseCertificate, hwalk]
      rfl
    obtain ⟨walk', hwalk', -, hiff⟩ := (certificate_nested wellSigned).2 _ hparse
    rw [hwalk] at hwalk'
    cases hwalk'
    have hcovered := (walkCertificate_read hwalk).covered hwell.1
    exact ⟨_, hparse, walk, rfl, hwell.2, hiff.mp ⟨hwell.1, hcovered⟩⟩

/-- A certificate whose signed bytes are a serial's first two, and the serial runs on. -/
def shortSigned : List UInt8 :=
  [0x30, 0x5a, 0x30, 0x02, 0x02, 0x0f,
   0x30, 0x0a, 0x06, 0x08, 0x2a, 0x86, 0x48, 0xce, 0x3d, 0x04, 0x03, 0x02,
   0x03, 0x48, 0x00,
   0x30, 0x0a, 0x06, 0x08, 0x2a, 0x86, 0x48, 0xce, 0x3d, 0x04, 0x03, 0x02,
   0x30, 0x00,
   0x30, 0x1e,
   0x17, 0x0d, 0x32, 0x36, 0x30, 0x31, 0x30, 0x31, 0x30, 0x30, 0x30, 0x30, 0x30, 0x30, 0x5a,
   0x17, 0x0d, 0x32, 0x37, 0x30, 0x31, 0x30, 0x31, 0x30, 0x30, 0x30, 0x30, 0x30, 0x30, 0x5a,
   0x30, 0x00,
   0x30, 0x15, 0x30, 0x13, 0x06, 0x07, 0x2a, 0x86, 0x48, 0xce, 0x3d, 0x02, 0x01,
   0x06, 0x08, 0x2a, 0x86, 0x48, 0xce, 0x3d, 0x03, 0x01, 0x07]

/-- Its issuer, its validity and its key are read from the signature, which nothing signs. -/
theorem shortSigned_unsigned : ¬ ∀ der c, parseCertificate der = .ok c →
    ∀ walk, walkCertificate der = .ok walk → walk.Nested ∧ walk.Covered := by
  intro hclaim
  -- the walk of the sample is computed: its issuer lies outside
  have hkernel : ((walkCertificate shortSigned).toOption.any fun walk =>
      decide (¬ walk.issuer.In walk.tbs)) = true := by
    decide +kernel
  cases hwalk : walkCertificate shortSigned with
  | error stop =>
    rw [hwalk] at hkernel
    cases hkernel
  | ok walk =>
    rw [hwalk] at hkernel
    have hissuer : ¬ walk.issuer.In walk.tbs := by
      simpa [Except.toOption] using hkernel
    have hparse : parseCertificate shortSigned = .ok (walk.certificate shortSigned) := by
      rw [parseCertificate, hwalk]
      rfl
    exact hissuer (hclaim shortSigned _ hparse walk hwalk).1.issuer

end ControlPlane
