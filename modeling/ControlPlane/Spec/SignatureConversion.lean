import ControlPlane.ForStd.Der
import ControlPlane.Spec.CertificateNesting

/-!
# Signatures in fixed width

A DER signature is a SEQUENCE of two INTEGERs. The conversion reads them as unsigned
naturals, whatever padding they come with, and writes each into one coordinate.

## Key results

- `readTlv_iff`: what a read finds at an offset
- `place_eq`: an INTEGER in its half of the output
- `signature_conversion`: the round trip, and what exactly is accepted
-/

namespace ControlPlane

open Der (IsLength IsTlv)

/-! ## What is read at an offset -/

/-- The parts of a TLV, from its offset on. -/
structure TlvParts (buf : List UInt8) (off : Nat) (t : Tlv) (content rest : List UInt8) : Prop where
  bytes : ∃ length, IsLength content.length length ∧
    buf.drop off = t.tag :: (length ++ (content ++ rest)) ∧
    t.contentStart = off + 1 + length.length
  singleByte : t.tag &&& 0x1f ≠ 0x1f
  start : t.start = off
  contentEnd : t.contentEnd = t.contentStart + content.length

theorem byteAt_drop {buf rest : List UInt8} {off : Nat} {byte : UInt8}
    (h : buf.drop off = byte :: rest) : byteAt buf off = .ok byte := by
  have hget : buf[off]? = some byte := by
    rw [← Nat.add_zero off, ← List.getElem?_drop, h]
    rfl
  rw [byteAt, hget]

theorem bytesOf_drop {buf bytes rest : List UInt8} {off : Nat} (h : buf.drop off = bytes ++ rest) :
    bytesOf buf off bytes.length = .ok bytes := by
  induction bytes generalizing off with
  | nil => rfl
  | cons b bs ih =>
    have htail : buf.drop (off + 1) = bs ++ rest := by
      rw [← List.drop_drop, h]
      rfl
    rw [List.length_cons, bytesOf, byteAt_drop h, ih htail]
    rfl

theorem length_of_drop {buf bytes : List UInt8} {off : Nat} (h : buf.drop off = bytes)
    (hne : bytes ≠ []) : buf.length = off + bytes.length := by
  have hlength := congrArg List.length h
  have hpos := List.length_pos_iff.mpr hne
  rw [List.length_drop] at hlength
  omega

/-- The count in the first byte of a long length. -/
theorem toNat_and_127 (first : UInt8) (h : ¬ first < 0x80) :
    (first &&& 0x7f).toNat = first.toNat - 0x80 := by
  have hlt := first.toNat_lt
  have hge : 128 ≤ first.toNat := by
    rw [UInt8.lt_iff_toNat_lt] at h
    exact Nat.le_of_not_lt h
  rw [UInt8.toNat_and]
  show first.toNat &&& (2 ^ 7 - 1) = _
  rw [Nat.and_two_pow_sub_one_eq_mod]
  omega

/-- What two bytes and the rest of the buffer read as. -/
theorem readTlv_cons {buf rest : List UInt8} {off : Nat} {tag first : UInt8}
    (h : buf.drop off = tag :: first :: rest) :
    readTlv buf off =
      if tag &&& 0x1f = 0x1f then .error .refused
      else if first < 0x80 then tlvOf buf tag off (off + 2) first.toNat
      else if first.toNat = 0x80 ∨ 0x84 < first.toNat ∨ rest.length < first.toNat - 0x80 then
        .error .refused
      else tlvOf buf tag off (off + 2 + (first.toNat - 0x80))
        (BigEndian.value (rest.take (first.toNat - 0x80))) := by
  have hlength := length_of_drop h (List.cons_ne_nil _ _)
  simp only [List.length_cons] at hlength
  have hfirst : buf.drop (off + 1) = first :: rest := by
    rw [← List.drop_drop, h]
    rfl
  have hrest : buf.drop (off + 2) = rest := by
    rw [← List.drop_drop, h]
    rfl
  unfold readTlv
  rw [if_neg (by omega), byteAt_drop h]
  -- the checks of the reader, one by one: tag, short form, number of digits
  by_cases htag : tag &&& 0x1f = 0x1f
  · rw [if_pos htag]
    exact if_pos htag
  rw [if_neg htag]
  refine (if_neg htag).trans ?_
  rw [byteAt_drop hfirst]
  by_cases hshort : first < 0x80
  · rw [if_pos hshort]
    exact if_pos hshort
  rw [if_neg hshort]
  refine (if_neg hshort).trans ?_
  rw [toNat_and_127 first hshort]
  have hge : 128 ≤ first.toNat := by
    rw [UInt8.lt_iff_toNat_lt] at hshort
    exact Nat.le_of_not_lt hshort
  by_cases hcount : first.toNat = 0x80 ∨ 0x84 < first.toNat ∨ rest.length < first.toNat - 0x80
  · rw [if_pos hcount, if_pos (by omega)]
  rw [if_neg hcount, if_neg (by omega)]
  -- the digits are there
  have hdigits : readLength buf (off + 2) (first.toNat - 0x80) =
      .ok (BigEndian.value (rest.take (first.toNat - 0x80))) := by
    have htake : (rest.take (first.toNat - 0x80)).length = first.toNat - 0x80 := by
      rw [List.length_take]
      omega
    have hbytes := bytesOf_drop (hrest.trans (List.take_append_drop (first.toNat - 0x80) rest).symm)
    rw [htake] at hbytes
    rw [readLength, hbytes]
    rfl
  rw [hdigits]
  generalize BigEndian.value (rest.take (first.toNat - 0x80)) = len
  -- a length beyond the buffer is refused either way
  by_cases hbig : buf.length < len
  · rw [tlvOf, if_pos (by omega)]
    exact if_pos hbig
  · exact if_neg hbig

theorem tlvOf_ok_iff {buf : List UInt8} {tag : UInt8} {off p len : Nat} {t : Tlv} :
    tlvOf buf tag off p len = .ok t ↔ p + len ≤ buf.length ∧ t = ⟨tag, off, p, p + len⟩ := by
  unfold tlvOf
  split
  next hbig =>
    constructor
    · intro h
      cases h
    · intro ⟨hfits, _⟩
      omega
  next hfits =>
    constructor
    · intro h
      cases h
      exact ⟨Nat.le_of_not_lt hfits, rfl⟩
    · intro ⟨_, ht⟩
      rw [ht]

/-- A read TLV has two bytes at least. -/
theorem drop_of_readTlv {buf : List UInt8} {off : Nat} {t : Tlv} (h : readTlv buf off = .ok t) :
    ∃ tag first rest, buf.drop off = tag :: first :: rest := by
  have hat := readTlv_spec h
  have hin := hat.inBuffer
  have hheader := hat.header
  have hcontent := hat.content
  have hlong : 2 ≤ (buf.drop off).length := by
    rw [List.length_drop]
    omega
  cases hbytes : buf.drop off with
  | nil => simp [hbytes] at hlong
  | cons tag bytes =>
    cases bytes with
    | nil => simp [hbytes] at hlong
    | cons first rest => exact ⟨tag, first, rest, rfl⟩

section parts

variable {buf rest : List UInt8} {off : Nat} {tag first : UInt8}

/-- One byte of length, and that many bytes of content. -/
theorem tlvParts_short (hdrop : buf.drop off = tag :: first :: rest)
    (htag : ¬ tag &&& 0x1f = 0x1f) (hshort : first < 0x80)
    (hfits : off + 2 + first.toNat ≤ buf.length) :
    TlvParts buf off ⟨tag, off, off + 2, off + 2 + first.toNat⟩
      (rest.take first.toNat) (rest.drop first.toNat) := by
  have hlength := length_of_drop hdrop (List.cons_ne_nil _ _)
  simp only [List.length_cons] at hlength
  have htake : (rest.take first.toNat).length = first.toNat := by
    rw [List.length_take]
    omega
  refine ⟨⟨[first], ?_, ?_, rfl⟩, htag, rfl, ?_⟩
  · rw [IsLength, if_pos hshort]
    exact ⟨rfl, htake⟩
  · rw [List.take_append_drop, hdrop]
    rfl
  · rw [htake]

/-- A count of digits, the digits of the length, and the content. -/
theorem tlvParts_long {n : Nat} (hdrop : buf.drop off = tag :: first :: rest)
    (htag : ¬ tag &&& 0x1f = 0x1f) (hshort : ¬ first < 0x80) (hn : first.toNat - 0x80 = n)
    (hcount : ¬ (first.toNat = 0x80 ∨ 0x84 < first.toNat ∨ rest.length < n))
    (hfits : off + 2 + n + BigEndian.value (rest.take n) ≤ buf.length) :
    TlvParts buf off
      ⟨tag, off, off + 2 + n, off + 2 + n + BigEndian.value (rest.take n)⟩
      ((rest.drop n).take (BigEndian.value (rest.take n)))
      ((rest.drop n).drop (BigEndian.value (rest.take n))) := by
  have hlength := length_of_drop hdrop (List.cons_ne_nil _ _)
  simp only [List.length_cons] at hlength
  have hge : 128 ≤ first.toNat := by
    rw [UInt8.lt_iff_toNat_lt] at hshort
    exact Nat.le_of_not_lt hshort
  -- the digits are there, so as many are taken as announced
  have hdigits : (rest.take n).length = n := by
    rw [List.length_take]
    omega
  generalize hlen : BigEndian.value (rest.take n) = len at hfits ⊢
  have htake : ((rest.drop n).take len).length = len := by
    rw [List.length_take, List.length_drop]
    omega
  refine ⟨⟨first :: rest.take n, ?_, ?_, ?_⟩, htag, rfl, ?_⟩
  · rw [IsLength, if_neg hshort, hdigits, htake]
    refine ⟨?_, ?_, ?_, hlen.symm⟩ <;> omega
  · rw [List.take_append_drop, List.cons_append, List.take_append_drop, hdrop]
  · rw [List.length_cons, hdigits]
    show off + 2 + n = _
    omega
  · rw [htake]

end parts

/-- A TLV that stands at an offset is read there. -/
theorem TlvParts.read {buf content rest : List UInt8} {off : Nat} {t : Tlv}
    (h : TlvParts buf off t content rest) : readTlv buf off = .ok t := by
  obtain ⟨⟨length, hlength, hdrop, hstart⟩, htag, hoff, hend⟩ := h
  cases length with
  | nil => cases hlength
  | cons first digits =>
    have hbuf := length_of_drop hdrop (List.cons_ne_nil _ _)
    simp only [List.length_cons, List.length_append] at hbuf
    rw [List.cons_append] at hdrop
    rw [readTlv_cons hdrop, if_neg htag]
    rw [IsLength] at hlength
    rw [List.length_cons] at hstart
    -- the length is one byte, or a count of digits and the digits
    by_cases hshort : first < 0x80
    · rw [if_pos hshort] at hlength
      obtain ⟨rfl, hn⟩ := hlength
      rw [if_pos hshort, tlvOf_ok_iff, ← hn]
      refine ⟨by simp at hbuf; omega, ?_⟩
      cases t
      simp at *
      omega
    · rw [if_neg hshort] at hlength
      obtain ⟨hn, hpos, hfour, hvalue⟩ := hlength
      rw [if_neg hshort, if_neg (by simp; omega)]
      have hcount : first.toNat - 0x80 = digits.length := by omega
      rw [hcount, List.take_left, ← hvalue, tlvOf_ok_iff]
      refine ⟨by omega, ?_⟩
      cases t
      simp at *
      omega

/-- A read answers with the TLV that stands at the offset. -/
theorem readTlv_iff {buf : List UInt8} {off : Nat} {t : Tlv} :
    readTlv buf off = .ok t ↔ ∃ content rest, TlvParts buf off t content rest := by
  constructor
  · intro h
    obtain ⟨tag, first, rest, hdrop⟩ := drop_of_readTlv h
    rw [readTlv_cons hdrop] at h
    -- a tag of many bytes is refused
    by_cases htag : tag &&& 0x1f = 0x1f
    · rw [if_pos htag] at h
      cases h
    rw [if_neg htag] at h
    -- a short length, or one of up to four bytes
    by_cases hshort : first < 0x80
    · rw [if_pos hshort] at h
      obtain ⟨hfits, rfl⟩ := tlvOf_ok_iff.mp h
      exact ⟨_, _, tlvParts_short hdrop htag hshort hfits⟩
    · rw [if_neg hshort] at h
      by_cases hcount : first.toNat = 0x80 ∨ 0x84 < first.toNat ∨ rest.length < first.toNat - 0x80
      · rw [if_pos hcount] at h
        cases h
      · rw [if_neg hcount] at h
        obtain ⟨hfits, rfl⟩ := tlvOf_ok_iff.mp h
        exact ⟨_, _, tlvParts_long hdrop htag hshort rfl hcount hfits⟩
  · intro ⟨content, rest, hparts⟩
    exact hparts.read

/-! ## Placing an INTEGER -/

theorem length_stripZeros_le (content : List UInt8) :
    (BigEndian.stripZeros content).length ≤ content.length :=
  (BigEndian.stripZeros_suffix content).length_le

/-- The loop stops where the leading zeros do. -/
theorem skipZeros_eq {buf content rest : List UInt8} {off : Nat}
    (h : buf.drop off = content ++ rest) :
    skipZeros buf off (content.length - 1) =
      .ok (off + (content.length - (BigEndian.stripZeros content).length)) := by
  induction content generalizing off with
  | nil => rfl
  | cons b bs ih =>
    cases bs with
    | nil => rfl
    | cons c cs =>
      have htail : buf.drop (off + 1) = (c :: cs) ++ rest := by
        rw [← List.drop_drop, h]
        rfl
      have hle := length_stripZeros_le (c :: cs)
      show skipZeros buf off (cs.length + 1) = _
      rw [skipZeros, byteAt_drop h, BigEndian.stripZeros]
      -- a zero is skipped as long as a byte follows it
      by_cases hb : b = 0
      · rw [if_pos hb]
        refine (if_pos hb).trans ?_
        refine (ih htail).trans ?_
        simp only [List.length_cons] at hle ⊢
        congr 1
        omega
      · rw [if_neg hb, Nat.sub_self]
        exact if_neg hb

/-- Bytes at the end of a field of zeros. -/
theorem setBytes_zeros (before after : List UInt8) {size : Nat} {bytes : List UInt8}
    (h : bytes.length ≤ size) :
    setBytes (before ++ (List.replicate size 0 ++ after)) (before.length + size - bytes.length)
        bytes =
      before ++ (List.replicate (size - bytes.length) 0 ++ bytes) ++ after := by
  have hoffset : before.length + size - bytes.length = before.length + (size - bytes.length) := by
    omega
  have hend : before.length + (size - bytes.length) + bytes.length = before.length + size := by omega
  have hzeros : size - bytes.length ≤ (List.replicate size (0 : UInt8)).length := by
    rw [List.length_replicate]
    omega
  have hrest : (List.replicate size (0 : UInt8) ++ after).drop size = after :=
    List.drop_left' List.length_replicate
  rw [setBytes, hoffset, hend, List.take_length_add_append, List.drop_length_add_append, hrest,
    List.take_append_of_le_length hzeros, List.take_replicate, Nat.min_eq_left (by omega),
    List.append_assoc, List.append_assoc, List.append_assoc, List.append_assoc]

/-- An INTEGER goes into its half, or is refused as empty or too wide. -/
theorem place_eq {sig content rest out : List UInt8} {size offset : Nat} {t : Tlv}
    (hdrop : sig.drop t.contentStart = content ++ rest)
    (hend : t.contentEnd = t.contentStart + content.length) :
    place sig size t offset out =
      if size < (BigEndian.stripZeros content).length ∨ content = [] then .error .refused
      else .ok (setBytes out (offset + size - (BigEndian.stripZeros content).length)
        (BigEndian.stripZeros content)) := by
  have hle := length_stripZeros_le content
  have hcount : t.contentEnd - 1 - t.contentStart = content.length - 1 := by omega
  have hlen : t.contentEnd -
      (t.contentStart + (content.length - (BigEndian.stripZeros content).length)) =
      (BigEndian.stripZeros content).length := by omega
  have hempty : (BigEndian.stripZeros content).length = 0 ↔ content = [] := by
    constructor
    · intro hzero
      by_contra hne
      obtain ⟨b, bs, heq, -⟩ := BigEndian.stripZeros_shape hne
      rw [heq] at hzero
      simp at hzero
    · intro hnil
      rw [hnil]
      rfl
  -- what is copied starts after the zeros
  have hstart : sig.drop
      (t.contentStart + (content.length - (BigEndian.stripZeros content).length)) =
      BigEndian.stripZeros content ++ rest := by
    obtain ⟨zeros, hzeros⟩ := BigEndian.stripZeros_suffix content
    have hskip : content.length - (BigEndian.stripZeros content).length = zeros.length := by
      have hsum := congrArg List.length hzeros
      rw [List.length_append] at hsum
      omega
    rw [hskip, ← List.drop_drop, hdrop]
    nth_rewrite 1 [← hzeros]
    rw [List.append_assoc, List.drop_left]
  unfold place
  rw [hcount, skipZeros_eq hdrop]
  show (if size < t.contentEnd - _ ∨ t.contentEnd - _ = 0 then _ else _) = _
  rw [hlen]
  by_cases hrefused : size < (BigEndian.stripZeros content).length ∨ content = []
  · rw [if_pos hrefused, if_pos (hrefused.imp_right hempty.mpr)]
  · have hplaced : ¬ (size < (BigEndian.stripZeros content).length ∨
        (BigEndian.stripZeros content).length = 0) := fun h => hrefused (h.imp_right hempty.mp)
    rw [if_neg hrefused, if_neg hplaced, bytesOf_drop hstart]
    rfl

/-! ## The conversion -/

/-- A SEQUENCE of two INTEGERs with these contents, and nothing else. -/
def IsSignature (sig r s : List UInt8) : Prop :=
  ∃ rBytes sBytes, IsTlv TAG_INTEGER r rBytes ∧ IsTlv TAG_INTEGER s sBytes ∧
    IsTlv TAG_SEQUENCE (rBytes ++ sBytes) sig

/-- The canonical encoding of two naturals. -/
def derSignature (r s : Nat) : List UInt8 :=
  Der.tlv TAG_SEQUENCE (Der.tlv TAG_INTEGER (Der.integer r) ++ Der.tlv TAG_INTEGER (Der.integer s))

/-- An INTEGER that has a place in a coordinate. -/
def Fits (size : Nat) (content : List UInt8) : Prop :=
  content ≠ [] ∧ BigEndian.value content < 256 ^ size

instance (size : Nat) (content : List UInt8) : Decidable (Fits size content) :=
  inferInstanceAs (Decidable (_ ∧ _))

/-- What a value at an offset reads as. -/
theorem readTlv_of_isTlv {buf content bytes rest : List UInt8} {off : Nat} {tag : UInt8}
    (h : IsTlv tag content bytes) (htag : tag &&& 0x1f ≠ 0x1f) (hdrop : buf.drop off = bytes ++ rest) :
    ∃ t, readTlv buf off = .ok t ∧ t.tag = tag ∧ t.stop = off + bytes.length ∧
      buf.drop t.contentStart = content ++ rest ∧
      t.contentEnd = t.contentStart + content.length := by
  obtain ⟨length, hlength, rfl⟩ := h
  have hsplit : buf.drop off = tag :: (length ++ (content ++ rest)) := by
    rw [hdrop, List.cons_append, List.append_assoc]
  refine ⟨⟨tag, off, off + 1 + length.length, off + 1 + length.length + content.length⟩, ?_, rfl, ?_,
    ?_, rfl⟩
  · rw [readTlv_iff]
    exact ⟨content, rest, ⟨length, hlength, hsplit, rfl⟩, htag, rfl, rfl⟩
  · show off + 1 + length.length + content.length = _
    simp only [List.length_cons, List.length_append]
    omega
  · show buf.drop (off + 1 + length.length) = _
    rw [Nat.add_assoc, ← List.drop_drop, hsplit, Nat.add_comm 1, List.drop_succ_cons, List.drop_left]

/-- What is read is a value. -/
theorem isTlv_of_readTlv {buf : List UInt8} {off : Nat} {t : Tlv} (h : readTlv buf off = .ok t) :
    ∃ content bytes rest, IsTlv t.tag content bytes ∧ buf.drop off = bytes ++ rest ∧
      t.stop = off + bytes.length ∧ buf.drop t.contentStart = content ++ rest ∧
      t.contentEnd = t.contentStart + content.length := by
  obtain ⟨content, rest, ⟨length, hlength, hdrop, hstart⟩, htag, hoff, hend⟩ := readTlv_iff.mp h
  refine ⟨content, t.tag :: (length ++ content), rest, ⟨length, hlength, rfl⟩, ?_, ?_, ?_, hend⟩
  · rw [hdrop, List.cons_append, List.append_assoc]
  · show t.contentEnd = _
    rw [hend, hstart]
    simp only [List.length_cons, List.length_append]
    omega
  · rw [hstart, Nat.add_assoc, ← List.drop_drop, hdrop, Nat.add_comm 1, List.drop_succ_cons,
      List.drop_left]

theorem fits_iff {size : Nat} {content : List UInt8} :
    ¬ (size < (BigEndian.stripZeros content).length ∨ content = []) ↔
      0 < size ∧ Fits size content := by
  constructor
  · intro h
    obtain ⟨hle, hne⟩ := not_or.mp h
    obtain ⟨b, bs, heq, -⟩ := BigEndian.stripZeros_shape hne
    -- a byte is left, so there is room for one
    have hpos : 0 < size := by
      rw [heq, List.length_cons] at hle
      omega
    exact ⟨hpos, hne, (BigEndian.length_stripZeros_le_iff hne hpos).mp (Nat.le_of_not_lt hle)⟩
  · intro ⟨hpos, hne, hlt⟩ h
    have hle := (BigEndian.length_stripZeros_le_iff hne hpos).mpr hlt
    cases h with
    | inl hwide => omega
    | inr hnil => exact hne hnil

/-- The fields of the output that an INTEGER fills. -/
theorem placed_zeros {size : Nat} {content : List UInt8} (before after : List UInt8)
    (h : (BigEndian.stripZeros content).length ≤ size) :
    setBytes (before ++ (List.replicate size 0 ++ after))
        (before.length + size - (BigEndian.stripZeros content).length)
        (BigEndian.stripZeros content) =
      before ++ BigEndian.ofNat size (BigEndian.value content) ++ after := by
  rw [setBytes_zeros before after h, BigEndian.ofNat_value_stripZeros h]

theorem require_of {condition : Bool} (h : condition = true) : require condition = .ok () :=
  if_pos h

/-- What a signature converts to. -/
theorem derEcdsaToP1363_of_isSignature {sig r s : List UInt8} (h : IsSignature sig r s)
    (size : Nat) : derEcdsaToP1363 sig size =
      if 0 < size ∧ Fits size r ∧ Fits size s then
        .ok (BigEndian.ofNat size (BigEndian.value r) ++ BigEndian.ofNat size (BigEndian.value s))
      else .error .refused := by
  obtain ⟨rBytes, sBytes, hr, hs, hseq⟩ := h
  have hwhole : sig.drop 0 = sig ++ [] := by rw [List.drop_zero, List.append_nil]
  obtain ⟨t, hread, htag, hstop, hcontent, hend⟩ := readTlv_of_isTlv hseq (by decide) hwhole
  rw [List.append_assoc] at hcontent
  obtain ⟨tr, hreadr, htagr, hstopr, hcontentr, hendr⟩ := readTlv_of_isTlv hr (by decide) hcontent
  have hafter : sig.drop tr.stop = sBytes ++ [] := by
    rw [hstopr, ← List.drop_drop, hcontent, List.drop_left]
  obtain ⟨ts, hreads, htags, hstops, hcontents, hends⟩ := readTlv_of_isTlv hs (by decide) hafter
  have hsequence : require (t.tag = TAG_SEQUENCE ∧ t.stop = sig.length) = .ok () := by
    apply require_of
    simp [htag, hstop]
  have hinteger : readTagged sig t.contentStart TAG_INTEGER = .ok tr := by
    rw [readTagged, hreadr]
    show (require _ >>= _) = _
    rw [require_of (by simp [htagr])]
    rfl
  have hfills : require (ts.tag = TAG_INTEGER ∧ ts.stop = t.contentEnd) = .ok () := by
    apply require_of
    simp [htags, hstops, hstopr, hend, Nat.add_assoc]
  -- the five checks before the halves are placed all pass
  have hconvert : derEcdsaToP1363 sig size =
      (place sig size tr 0 (List.replicate (size * 2) 0) >>= place sig size ts size) := by
    rw [derEcdsaToP1363, hread]
    show (require _ >>= _) = _
    rw [hsequence]
    show (readTagged _ _ _ >>= _) = _
    rw [hinteger]
    show (readTlv _ _ >>= _) = _
    rw [hreads]
    show (require _ >>= _) = _
    rw [hfills]
    rfl
  rw [hconvert, place_eq hcontentr hendr]
  by_cases hall : 0 < size ∧ Fits size r ∧ Fits size s
  · rw [if_pos hall]
    obtain ⟨hpos, hfitr, hfits⟩ := hall
    have hplacer := fits_iff.mpr ⟨hpos, hfitr⟩
    have hplaces := fits_iff.mpr ⟨hpos, hfits⟩
    rw [if_neg hplacer]
    refine (place_eq hcontents hends).trans ?_
    rw [if_neg hplaces]
    have hler := Nat.le_of_not_lt (not_or.mp hplacer).1
    have hles := Nat.le_of_not_lt (not_or.mp hplaces).1
    have hfirst := placed_zeros [] (List.replicate size 0) hler
    have hsecond := placed_zeros (BigEndian.ofNat size (BigEndian.value r)) [] hles
    rw [List.nil_append, List.nil_append, List.length_nil, ← List.replicate_add,
      ← Nat.mul_two] at hfirst
    rw [List.append_nil, List.append_nil, BigEndian.length_ofNat] at hsecond
    rw [hfirst, hsecond]
  · rw [if_neg hall]
    -- the first half is refused, or else the second
    by_cases hplacer : size < (BigEndian.stripZeros r).length ∨ r = []
    · rw [if_pos hplacer]
      rfl
    · rw [if_neg hplacer]
      refine (place_eq hcontents hends).trans ?_
      obtain ⟨hpos, hfitr⟩ := fits_iff.mp hplacer
      rw [if_pos]
      by_contra hplaces
      exact hall ⟨hpos, hfitr, (fits_iff.mp hplaces).2⟩

/-- What is accepted is a signature. -/
theorem isSignature_of_ok {sig out : List UInt8} {size : Nat}
    (h : derEcdsaToP1363 sig size = .ok out) : ∃ r s, IsSignature sig r s := by
  obtain ⟨t, hread, h⟩ := bind_ok h
  obtain ⟨_, hsequence, h⟩ := bind_ok h
  obtain ⟨tr, hinteger, h⟩ := bind_ok h
  obtain ⟨ts, hreads, h⟩ := bind_ok h
  obtain ⟨_, hfills, -⟩ := bind_ok h
  obtain ⟨hreadr, htagr⟩ := readTagged_spec hinteger
  have hsequence := require_ok hsequence
  have hfills := require_ok hfills
  rw [decide_eq_true_eq] at hsequence hfills
  obtain ⟨content, bytes, rest, hseq, hdrop, hstop, hcontent, hend⟩ := isTlv_of_readTlv hread
  obtain ⟨r, rBytes, restr, hr, hdropr, hstopr, -, -⟩ := isTlv_of_readTlv hreadr
  obtain ⟨s, sBytes, rests, hs, hdrops, hstops, -, -⟩ := isTlv_of_readTlv hreads
  rw [hsequence.1] at hseq
  rw [htagr] at hr
  rw [hfills.1] at hs
  -- the SEQUENCE is the whole input
  have hsig : bytes = sig := by
    rw [List.drop_zero] at hdrop
    have hlength := congrArg List.length hdrop
    rw [List.length_append] at hlength
    have hnil : rest = [] := by
      apply List.length_eq_zero_iff.mp
      omega
    rw [hdrop, hnil, List.append_nil]
  -- and its content the two INTEGERs
  have hfill : content = rBytes ++ sBytes := by
    have hafter : sig.drop t.contentStart = rBytes ++ (sBytes ++ rests) := by
      rw [hdropr]
      congr 1
      rw [← hdrops, hstopr, ← List.drop_drop, hdropr, List.drop_left]
    rw [hcontent, ← List.append_assoc] at hafter
    apply (List.append_inj hafter _).1
    have hstopt : t.stop = t.contentEnd := rfl
    rw [List.length_append]
    omega
  rw [hsig, hfill] at hseq
  exact ⟨r, s, rBytes, sBytes, hr, hs, hseq⟩

/-- A canonical encoding, when its length fits in four bytes. -/
theorem isSignature_derSignature {r s : Nat}
    (h : (Der.tlv TAG_INTEGER (Der.integer r) ++ Der.tlv TAG_INTEGER (Der.integer s)).length <
      256 ^ 4) : IsSignature (derSignature r s) (Der.integer r) (Der.integer s) := by
  rw [List.length_append, Der.tlv, Der.tlv, List.length_cons, List.length_cons,
    List.length_append, List.length_append] at h
  refine ⟨_, _, Der.isTlv_tlv _ (by omega), Der.isTlv_tlv _ (by omega), Der.isTlv_tlv _ ?_⟩
  simp only [Der.tlv, List.length_append, List.length_cons]
  omega

/-- The conversion reads nothing outside the signature. -/
theorem safe_derEcdsaToP1363 (sig : List UInt8) (size : Nat) :
    Safe (derEcdsaToP1363 sig size) := by
  have hplace : ∀ {off : Nat} {t : Tlv} (offset : Nat) (out : List UInt8),
      readTlv sig off = .ok t → Safe (place sig size t offset out) := by
    intro off t offset out h
    obtain ⟨content, _, rest, -, -, -, hcontent, hend⟩ := isTlv_of_readTlv h
    rw [place_eq hcontent hend]
    exact Safe.ite (fun _ => .refused) (fun _ => .ok _)
  refine (safe_readTlv sig 0).bind fun t _ => ?_
  refine (safe_require _).bind fun _ _ => ?_
  refine (safe_readTagged sig _ _).bind fun tr hr => ?_
  refine (safe_readTlv sig _).bind fun ts hs => ?_
  refine (safe_require _).bind fun _ _ => ?_
  exact (hplace _ _ (readTagged_spec hr).1).bind fun out _ => hplace _ _ hs

/-- Naturals below `256 ^ size` come back from their canonical encoding as their
    `size`-byte halves. Whatever is accepted is a SEQUENCE of two INTEGERs and nothing
    else, and its halves are their unsigned contents; with an INTEGER that is empty or
    wider than `size` it is refused. -/
theorem signature_conversion (size : Nat) :
    (0 < size → ∀ r s, r < 256 ^ size → s < 256 ^ size →
      (Der.tlv TAG_INTEGER (Der.integer r) ++ Der.tlv TAG_INTEGER (Der.integer s)).length <
        256 ^ 4 →
      derEcdsaToP1363 (derSignature r s) size =
        .ok (BigEndian.ofNat size r ++ BigEndian.ofNat size s)) ∧
    (∀ sig r s, IsSignature sig r s →
      derEcdsaToP1363 sig size =
        if 0 < size ∧ Fits size r ∧ Fits size s then
          .ok (BigEndian.ofNat size (BigEndian.value r) ++
            BigEndian.ofNat size (BigEndian.value s))
        else .error .refused) ∧
    (∀ sig, (∀ r s, ¬ IsSignature sig r s) → derEcdsaToP1363 sig size = .error .refused) := by
  refine ⟨?_, ?_, ?_⟩
  -- both integers fit, so the encoding is read back at its width
  · intro hpos r s hr hs hfour
    have hfits : 0 < size ∧ Fits size (Der.integer r) ∧ Fits size (Der.integer s) := by
      refine ⟨hpos, ⟨Der.integer_ne_nil r, ?_⟩, ⟨Der.integer_ne_nil s, ?_⟩⟩
      · rw [Der.value_integer]
        exact hr
      · rw [Der.value_integer]
        exact hs
    rw [derEcdsaToP1363_of_isSignature (isSignature_derSignature hfour), if_pos hfits,
      Der.value_integer, Der.value_integer]
  · intro sig r s h
    exact derEcdsaToP1363_of_isSignature h size
  -- an answer would make the bytes a signature
  · intro sig hnone
    cases hread : derEcdsaToP1363 sig size with
    | ok out =>
      obtain ⟨r, s, h⟩ := isSignature_of_ok hread
      exact absurd h (hnone r s)
    | error stop => rw [safe_derEcdsaToP1363 sig size stop hread]

/-- The numbers 1 and 128 on a curve of 32 bytes: the second is written with a sign pad. -/
theorem signature_conversion_small :
    derEcdsaToP1363 [0x30, 7, 2, 1, 1, 2, 2, 0, 128] 32 =
      .ok (BigEndian.ofNat 32 1 ++ BigEndian.ofNat 32 128) := by
  have hder : derSignature 1 128 = [0x30, 7, 2, 1, 1, 2, 2, 0, 128] := by decide
  rw [← hder]
  exact (signature_conversion 32).1 (by decide) 1 128 (by decide) (by decide) (by decide)

end ControlPlane
