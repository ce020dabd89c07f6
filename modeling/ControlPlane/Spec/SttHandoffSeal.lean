import ControlPlane.Spec.SttTickets
import Mathlib.Data.Bool.AllAny

/-!
# The handoff of a session

A session object is told who it is for in plain headers, under a HMAC over the lines of a
text. The text determines the claims, because no id the plane mints has a line break in it,
so a session believes nothing but what the Worker handed over; and what the Worker hands
over it believes, for a minute.

## Key results

- `handoffPayload_injective`: the signed text determines the claims
- `session_only_handed_over`: what a session accepts was handed over, and is not stale
- `handoff_accepted`: what is handed over is accepted until it expires
-/

namespace ControlPlane

/-! ## Names the plane mints -/

/-- A name of letters, digits, underscores and dashes. -/
structure IdText (s : String) : Prop where
  nonempty : s ≠ ""
  chars : ∀ c ∈ s.toList, Media.isIdChar c = true

/-- A text of identifier characters only is an id. -/
theorem idText_of_all {s : String} (hne : s ≠ "") (h : s.toList.all Media.isIdChar = true) :
    IdText s :=
  ⟨hne, List.all_eq_true.mp h⟩

/-- An id followed by hex digits is an id. -/
theorem IdText.append_hex {s : String} (h : IdText s) (bytes : List UInt8) :
    IdText (s ++ "_" ++ hexText bytes) := by
  have hlist : (s ++ "_" ++ hexText bytes).toList =
      s.toList ++ '_' :: (hexText bytes).toList := by simp
  constructor
  · intro hempty
    rw [hempty] at hlist
    simp at hlist
  · intro c hc
    rw [hlist] at hc
    rcases List.mem_append.mp hc with hc | hc
    · exact h.chars c hc
    rcases List.mem_cons.mp hc with rfl | hc
    · decide
    · exact Media.isIdChar_of_hex (List.all_eq_true.mp (hexText_spec bytes).2 c hc)

/-- The ids the plane mints are ids. -/
theorem idText_newId {kind : String} (h : IdText kind) (random : Vector UInt8 6) :
    IdText (newId kind random) :=
  h.append_hex random.toList

/-- So are its request ids. -/
theorem idText_newRequestId (random : Vector UInt8 12) : IdText (newRequestId random) :=
  (idText_of_all (s := "req") (by decide) (by decide)).append_hex random.toList

/-- So is every plan id the plane stores. -/
theorem idText_of_isPlanId {s : String} (h : isPlanId s = true) : IdText s := by
  unfold isPlanId at h
  cases hlist : s.toList with
  | nil =>
    rw [hlist] at h
    cases h
  | cons c cs =>
    rw [hlist] at h
    simp only [Bool.and_eq_true, List.all_eq_true] at h
    obtain ⟨⟨hc, -⟩, hcs⟩ := h
    -- a slug is made of lower-case letters, digits, underscores and dashes
    have hlowerId {d : Char} (hlower : d.isLower = true) : Media.isIdChar d = true := by
      have halpha : d.isAlphanum = true :=
        Bool.or_eq_true_iff.mpr (.inl (Bool.or_eq_true_iff.mpr (.inr hlower)))
      simp [Media.isIdChar, halpha]
    refine ⟨fun hempty => ?_, fun d hd => ?_⟩
    · rw [hempty] at hlist
      cases hlist
    · rw [hlist] at hd
      rcases List.mem_cons.mp hd with rfl | hd
      · exact hlowerId hc
      · have hslug := hcs d hd
        simp only [Bool.or_eq_true] at hslug
        rcases hslug with ((hlower | hdigit) | hunder) | hdash
        · exact hlowerId hlower
        · have halpha : d.isAlphanum = true := Bool.or_eq_true_iff.mpr (.inr hdigit)
          simp [Media.isIdChar, halpha]
        · simp [Media.isIdChar, hunder]
        · simp [Media.isIdChar, hdash]

/-- An id is one line. -/
theorem IdText.newline_not_mem {s : String} (h : IdText s) : '\n' ∉ s.toList :=
  fun hmem => absurd (h.chars _ hmem) (by decide)

/-! ## The signed text -/

/-- No claim has a line break in it; the expiry cannot have one. -/
structure HandoffClaims.OneLine (h : HandoffClaims) : Prop where
  accountId : '\n' ∉ h.accountId.toList
  clientId : '\n' ∉ h.clientId.toList
  planId : '\n' ∉ h.planId.toList
  requestId : '\n' ∉ h.requestId.toList
  modelId : '\n' ∉ h.modelId.toList

/-- The signed text: the claims, one a line. -/
theorem toList_handoffPayload (h : HandoffClaims) : (handoffPayload h).toList =
    h.accountId.toList ++ '\n' :: (h.clientId.toList ++ '\n' :: (h.planId.toList ++ '\n' ::
      (h.requestId.toList ++ '\n' :: (h.modelId.toList ++ '\n' :: h.exp.text.toList)))) := by
  simp [handoffPayload]

/-- The signed text determines the claims. -/
theorem handoffPayload_injective {h h' : HandoffClaims} (hline : h.OneLine) (hline' : h'.OneLine)
    (heq : handoffPayload h = handoffPayload h') : h = h' := by
  have hlist := congrArg String.toList heq
  rw [toList_handoffPayload, toList_handoffPayload] at hlist
  obtain ⟨haccount, hlist⟩ := Media.append_cons_inj hline.accountId hline'.accountId hlist
  obtain ⟨hclient, hlist⟩ := Media.append_cons_inj hline.clientId hline'.clientId hlist
  obtain ⟨hplan, hlist⟩ := Media.append_cons_inj hline.planId hline'.planId hlist
  obtain ⟨hrequest, hlist⟩ := Media.append_cons_inj hline.requestId hline'.requestId hlist
  obtain ⟨hmodel, hexp⟩ := Media.append_cons_inj hline.modelId hline'.modelId hlist
  have hsame := Number.text_injective (String.toList_inj.mp hexp)
  cases h
  cases h'
  simp only [String.toList_inj] at haccount hclient hplan hrequest hmodel hsame
  rw [haccount, hclient, hplan, hrequest, hmodel, hsame]

/-! ## What a session accepts -/

section accept

variable {digests : Media.Digests} {headers : HandoffHeaders} {aigToken : Option String}
  {mintedId : String} {nowSec : Number} {claims : HandoffClaims}

/-- A header's text is one line, wherever its default is. -/
theorem newline_not_mem_headerText (value : Option HeaderValue) {fallback : String}
    (h : '\n' ∉ fallback.toList) : '\n' ∉ (headerText value fallback).toList := by
  cases value with
  | none => exact h
  | some value => exact value.oneLine

/-- Every claim a session reads of headers is one line. -/
theorem HandoffHeaders.oneLine_claims (hminted : IdText mintedId) (exp : Number) :
    (headers.claims mintedId exp).OneLine where
  accountId := newline_not_mem_headerText _ (by decide)
  clientId := newline_not_mem_headerText _ (by decide)
  planId := newline_not_mem_headerText _ (by decide)
  requestId := newline_not_mem_headerText _ hminted.newline_not_mem
  modelId := newline_not_mem_headerText _ (by decide)

/-- What a session accepts is signed with the HMAC of its claims, and not expired. -/
theorem HandoffHeaders.accept_ok
    (h : headers.accept digests aigToken mintedId nowSec = .ok claims) : ∃ secret,
      requireHandoffSecret aigToken = some secret ∧
      Media.b64urlToBytes (headerText headers.sig "") = some (handoffTag digests secret claims) ∧
      claims.exp.lt nowSec = false ∧ ∃ exp, claims = headers.claims mintedId exp := by
  unfold HandoffHeaders.accept at h
  dsimp only at h
  split at h
  · cases h
  split at h
  · cases h
  split at h
  · cases h
  -- the headers are there and the deployment has a secret
  next secret hsecret =>
    split at h
    · cases h
    split at h
    · cases h
    next hverify =>
      obtain rfl := Except.ok.inj h
      rw [Bool.not_eq_true', Bool.not_eq_false] at hverify
      -- the expiry is checked before the signature
      unfold verifySttHandoff at hverify
      split at hverify
      · cases hverify
      next hexp =>
        split at hverify
        · cases hverify
        next sigBytes hsig =>
          rw [Bool.or_eq_true, not_or] at hexp
          refine ⟨secret, hsecret, ?_, Bool.eq_false_iff.mpr hexp.2, _, rfl⟩
          rw [hsig, of_decide_eq_true hverify]

end accept

/-! ## What the Worker hands over -/

/-- What the platform mints for the calls: the ids of accounts and requests, and the time. -/
structure PlatformMinted (Calls : AccessCall → Prop) : Prop where
  accountId : ∀ raw accountId grantId, Calls (.createAccount raw accountId grantId) →
    ∃ random, accountId = newId "acct" random
  requestId : ∀ req, Calls (.sttUpgrade req) → ∃ random, req.requestId = newRequestId random
  /-- A `Date` after 1970. -/
  nowMs : ∀ req, Calls (.sttUpgrade req) → 0 ≤ req.nowMs ∧ req.nowMs ≤ 8640000000000000

section handoff

variable {digests : Media.Digests} {catalog : Catalog} {Calls : AccessCall → Prop} {now : Int}
  {c : Pool AccessDb AccessAnswer}

/-- The expiry a handoff is given: a minute from the second of the request. -/
def SttUpgrade.expSec (req : SttUpgrade) : Int := req.nowMs / 1000 + STT_HANDOFF_TTL_SEC

/-- A handoff: well named, with its expiry, under its own signature. -/
structure WellSealed (digests : Media.Digests) (req : SttUpgrade) (handoff : SignedHandoff) :
    Prop where
  accountId : IdText handoff.claims.accountId
  clientId : IdText handoff.claims.clientId
  planId : IdText handoff.claims.planId
  requestId : IdText handoff.claims.requestId
  modelId : handoff.claims.modelId = FLUX_STT_MODEL
  exp : handoff.claims.exp.HasValue (req.expSec : ℚ)
  sealed : ∃ secret, requireHandoffSecret req.aigToken = some secret ∧
    handoff.sig = signSttHandoff digests secret handoff.claims
  wsProtocol : handoff.wsProtocol = none ∨ handoff.wsProtocol = some STT_WS_PROTOCOL

/-- Every claim the Worker signs is one line. -/
theorem WellSealed.oneLine {req : SttUpgrade} {handoff : SignedHandoff}
    (h : WellSealed digests req handoff) : handoff.claims.OneLine where
  accountId := h.accountId.newline_not_mem
  clientId := h.clientId.newline_not_mem
  planId := h.planId.newline_not_mem
  requestId := h.requestId.newline_not_mem
  modelId := by
    rw [h.modelId]
    decide

/-- The expiry the Worker computes is exact for every instant of the clock. -/
theorem hasValue_expSec {req : SttUpgrade} (h : 0 ≤ req.nowMs ∧ req.nowMs ≤ 8640000000000000) :
    ((Number.ofRat (req.nowMs / 1000 : Int)).add (Number.ofRat STT_HANDOFF_TTL_SEC)).HasValue
      (req.expSec : ℚ) := by
  have hnow : (Number.ofRat (req.nowMs / 1000 : Int)).HasValue ((req.nowMs / 1000 : Int) : ℚ) :=
    Number.ofRat_intCast (by rw [abs_le]; omega)
  have httl : (Number.ofRat STT_HANDOFF_TTL_SEC).HasValue ((STT_HANDOFF_TTL_SEC : Int) : ℚ) := by
    have hcast : (STT_HANDOFF_TTL_SEC : ℚ) = ((STT_HANDOFF_TTL_SEC : Int) : ℚ) := by push_cast; rfl
    rw [hcast]
    exact Number.ofRat_intCast (by decide)
  refine hnow.add_intCast httl ?_
  rw [abs_le, show STT_HANDOFF_TTL_SEC = 60 from rfl]
  omega

/-- What is handed over from sound tables is well sealed. -/
theorem HandedOver.wellSealed (hminted : PlatformMinted Calls) {req : SttUpgrade}
    (hcall : Calls (.sttUpgrade req)) {s t : AccessDb} (ht : Sound digests Calls t)
    {handoff : SignedHandoff} (h : HandedOver digests Calls s req (.ok handoff) t) :
    WellSealed digests req handoff := by
  obtain ⟨auth, caller, secret, -, hadmitted, hsecret, rfl⟩ := h handoff rfl
  have hlive := hadmitted.live
  obtain ⟨raw, grantId, hopened⟩ := hlive.opened
  -- every id of the claims was minted by the plane
  obtain ⟨randomAccount, haccount⟩ := hminted.accountId _ _ _ hopened
  obtain ⟨randomRequest, hrequest⟩ := hminted.requestId _ hcall
  obtain ⟨row, hrow, hkeep⟩ := hlive.row
  obtain ⟨ip, body, random, -, hissued⟩ := (ht.clients row hrow).issued
  have hclient : caller.client.id = newId "cli" random.clientId :=
    hkeep.fields.1.symm.trans hissued.1
  constructor
  · show IdText caller.account.id
    rw [haccount]
    exact idText_newId (idText_of_all (by decide) (by decide)) randomAccount
  · show IdText caller.client.id
    rw [hclient]
    exact idText_newId (idText_of_all (by decide) (by decide)) random.clientId
  · exact idText_of_isPlanId hlive.slug
  · show IdText req.requestId
    rw [hrequest]
    exact idText_newRequestId randomRequest
  · rfl
  -- the expiry is computed from the clock of the platform
  · exact hasValue_expSec (hminted.nowMs _ hcall)
  · exact ⟨secret, hsecret, rfl⟩
  · cases auth with
    | clientKey bearer => exact .inl rfl
    | sttTicket ticket => exact .inr rfl

/-- Every handoff of a run is well sealed. -/
theorem AccessRun.wellSealed (h : AccessRun digests catalog Calls now c)
    (hminted : PlatformMinted Calls) {req : SttUpgrade} {handoff : SignedHandoff}
    (hdone : .done (.handedOff req (.ok handoff)) ∈ c.threads) :
    WellSealed digests req handoff := by
  obtain ⟨hcall, s, hover⟩ := h.handedOff hdone
  exact hover.wellSealed hminted hcall h.sound

/-- The claims the Worker has signed. -/
def handedOver (c : Pool AccessDb AccessAnswer) : Set HandoffClaims :=
  {claims | ∃ req handoff, .done (.handedOff req (.ok handoff)) ∈ c.threads ∧
    handoff.claims = claims}

/-- Nobody but the Worker has made the signature: its tag is the HMAC of no text the Worker has
    not signed. -/
def UnforgedHandoff (digests : Media.Digests) (signed : Set HandoffClaims) (aigToken : Option String)
    (sig : String) : Prop :=
  ∀ secret message tag, requireHandoffSecret aigToken = some secret →
    Media.b64urlToBytes sig = some tag →
    digests.hmac (handoffKey digests secret) message = tag →
    ∃ claims ∈ signed, message = TextEncoder.encode (handoffPayload claims)

/-- A session that accepts a handoff was handed over, to the caller it is told of, at most a
    minute before. -/
theorem session_only_handed_over (h : AccessRun digests catalog Calls now c)
    (hminted : PlatformMinted Calls) {headers : HandoffHeaders} {aigToken : Option String}
    {mintedId : String} {nowSec : Number} {claims : HandoffClaims} (hid : IdText mintedId)
    (haccept : headers.accept digests aigToken mintedId nowSec = .ok claims)
    (hideal : UnforgedHandoff digests (handedOver c) aigToken (headerText headers.sig "")) :
    ∃ req handoff, .done (.handedOff req (.ok handoff)) ∈ c.threads ∧ handoff.claims = claims ∧
      ∀ t : ℚ, nowSec.HasValue t → t ≤ req.expSec := by
  obtain ⟨secret, hsecret, hsig, hfresh, exp, hclaims⟩ := HandoffHeaders.accept_ok haccept
  obtain ⟨signed, ⟨req, handoff, hdone, rfl⟩, hmessage⟩ := hideal secret _ _ hsecret hsig rfl
  have hsealed := h.wellSealed hminted hdone
  have hsame : handoff.claims = claims := by
    have hline : claims.OneLine := hclaims ▸ HandoffHeaders.oneLine_claims hid exp
    exact (handoffPayload_injective hline hsealed.oneLine
      (TextEncoder.encode_injective hmessage)).symm
  refine ⟨req, handoff, hdone, hsame, fun t ht => ?_⟩
  have hexp := hsealed.exp
  rw [hsame] at hexp
  by_contra hlate
  rw [(hexp.lt_iff ht).mpr (not_le.mp hlate)] at hfresh
  cases hfresh

/-! ## The way through the headers -/

/-- A text of plain characters is a header value as it stands. -/
theorem HeaderValue.ofText_plain {text : String} (h : ∀ c ∈ text.toList,
    isHeaderSpace c = false ∧ (c.toNat < 0x100 && c != '\n' && c != '\r' && c != '\x00') = true) :
    ∃ value, HeaderValue.ofText text = some value ∧ value.text = text := by
  -- there is nothing to trim at either end
  have hfront : text.toList.dropWhile isHeaderSpace = text.toList := by
    rw [List.dropWhile_eq_self_iff]
    intro hlen hspace
    rw [(h _ (List.getElem_mem hlen)).1] at hspace
    cases hspace
  have hback : text.toList.rdropWhile isHeaderSpace = text.toList := by
    rw [List.rdropWhile_eq_self_iff]
    intro hne hspace
    rw [(h _ (List.getLast_mem hne)).1] at hspace
    cases hspace
  have hvalue : (text.toList.dropWhile isHeaderSpace).rdropWhile isHeaderSpace = text.toList := by
    rw [hfront, hback]
  unfold HeaderValue.ofText
  dsimp only
  split
  next =>
    refine ⟨_, rfl, ?_⟩
    dsimp only
    rw [hvalue, String.ofList_toList]
  next hbad =>
    rw [hvalue] at hbad
    exact absurd (List.all_eq_true.mpr fun c hc => (h c hc).2) hbad

/-- An identifier character passes through a header unchanged. -/
theorem isIdChar_header {c : Char} (h : Media.isIdChar c = true) : isHeaderSpace c = false ∧
    (c.toNat < 0x100 && c != '\n' && c != '\r' && c != '\x00') = true := by
  have hall : ∀ n < 128, Media.isIdChar (Char.ofNat n) = true →
      isHeaderSpace (Char.ofNat n) = false ∧ ((Char.ofNat n).toNat < 0x100 &&
        Char.ofNat n != '\n' && Char.ofNat n != '\r' && Char.ofNat n != '\x00') = true := by decide
  have hc := hall c.toNat (Media.isKeyChar_lt (Media.isIdChar_spec h).1)
  rw [Char.ofNat_toNat] at hc
  exact hc h

/-- And so does an id. -/
theorem IdText.header {s : String} (h : IdText s) :
    ∃ value, HeaderValue.ofText s = some value ∧ value.text = s :=
  HeaderValue.ofText_plain fun c hc => isIdChar_header (h.chars c hc)

/-- The digits of the expiry. -/
theorem exists_header_expiry {n : Number} {k : Nat} (h : n.HasValue k) (hlt : k < 2 ^ 53) :
    ∃ value, HeaderValue.ofText n.text = some value ∧ value.text = n.text := by
  refine HeaderValue.ofText_plain fun c hc => ?_
  rw [Number.text_natCast h hlt, Nat.toList_repr] at hc
  have hdigit : c.isDigit = true := Number.digits_toDigits k c hc
  have halpha : c.isAlphanum = true := Bool.or_eq_true_iff.mpr (.inr hdigit)
  exact isIdChar_header (by simp [Media.isIdChar, halpha])

/-- A non-negative number has its value as a natural number. -/
theorem hasValue_natCast {n : Number} {k : Int} (h : n.HasValue k) (hk : 0 ≤ k) :
    n.HasValue (k.toNat : ℚ) := by
  have hcast : ((k.toNat : ℚ)) = (k : ℚ) := by exact_mod_cast Int.toNat_of_nonneg hk
  rwa [hcast]

/-- The headers a handoff is sent with say what it says. -/
structure HeadersSay (headers : HandoffHeaders) (handoff : SignedHandoff) : Prop where
  accountId : headerText headers.accountId "" = handoff.claims.accountId
  clientId : headerText headers.clientId "" = handoff.claims.clientId
  planId : headerText headers.planId "" = handoff.claims.planId
  requestId : ∀ minted, headerText headers.requestId minted = handoff.claims.requestId
  modelId : ∀ fallback, headerText headers.modelId fallback = handoff.claims.modelId
  exp : headerText headers.exp "" = handoff.claims.exp.text
  sig : headerText headers.sig "" = handoff.sig

/-- What the Worker seals reaches the session as it was written. -/
theorem WellSealed.headers {req : SttUpgrade} {handoff : SignedHandoff}
    (h : WellSealed digests req handoff) (hnow : 0 ≤ req.nowMs ∧ req.nowMs ≤ 8640000000000000) :
    ∃ headers, handoff.headers = some headers ∧ HeadersSay headers handoff := by
  obtain ⟨accountId, haccountId, haccount⟩ := h.accountId.header
  obtain ⟨clientId, hclientId, hclient⟩ := h.clientId.header
  obtain ⟨planId, hplanId, hplan⟩ := h.planId.header
  obtain ⟨requestId, hrequestId, hrequest⟩ := h.requestId.header
  -- the model is the one of the sessions
  obtain ⟨modelId, hmodelId, hmodel⟩ :
      ∃ value, HeaderValue.ofText handoff.claims.modelId = some value ∧
        value.text = handoff.claims.modelId := by
    rw [h.modelId]
    exact HeaderValue.ofText_plain (List.all_iff_forall_prop.mp (by decide))
  obtain ⟨exp, hexp, hexpText⟩ :
      ∃ value, HeaderValue.ofText handoff.claims.exp.text = some value ∧
        value.text = handoff.claims.exp.text := by
    have hrange : 0 ≤ req.expSec ∧ req.expSec.toNat < 2 ^ 53 := by
      rw [SttUpgrade.expSec, show STT_HANDOFF_TTL_SEC = 60 from rfl]
      omega
    exact exists_header_expiry (hasValue_natCast h.exp hrange.1) hrange.2
  -- the signature is base64url
  obtain ⟨sig, hsig, hsigText⟩ :
      ∃ value, HeaderValue.ofText handoff.sig = some value ∧ value.text = handoff.sig := by
    obtain ⟨secret, -, hseal⟩ := h.sealed
    rw [hseal]
    exact HeaderValue.ofText_plain fun c hc =>
      isIdChar_header (List.all_eq_true.mp (isIdChar_b64url _) c hc)
  -- the protocol is echoed only to a client that came with a ticket
  obtain ⟨protocol, hprotocol⟩ : ∃ protocol, handoff.wsProtocol = none ∧ protocol = none ∨
      ∃ text value, handoff.wsProtocol = some text ∧ HeaderValue.ofText text = some value ∧
        protocol = some value := by
    rcases h.wsProtocol with hnone | hsome
    · exact ⟨none, .inl ⟨hnone, rfl⟩⟩
    · obtain ⟨value, hvalue, -⟩ : ∃ value, HeaderValue.ofText STT_WS_PROTOCOL = some value ∧
          value.text = STT_WS_PROTOCOL :=
        HeaderValue.ofText_plain (List.all_iff_forall_prop.mp (by decide))
      exact ⟨some value, .inr ⟨STT_WS_PROTOCOL, value, hsome, hvalue, rfl⟩⟩
  refine ⟨⟨some accountId, some clientId, some planId, some requestId, some modelId, some exp,
    some sig, protocol⟩, ?_, ⟨haccount, hclient, hplan, fun _ => hrequest, fun _ => hmodel,
    hexpText, hsigText⟩⟩
  unfold SignedHandoff.headers
  rw [haccountId, hclientId, hplanId, hrequestId, hmodelId, hexp, hsig]
  obtain ⟨hnone, rfl⟩ | ⟨text, value, hsome, hvalue, rfl⟩ := hprotocol
  · rw [hnone]
    rfl
  · rw [hsome]
    show ((HeaderValue.ofText text).map some).bind _ = _
    rw [hvalue]
    rfl

/-- A well sealed handoff is accepted as it is, until the expiry. -/
theorem WellSealed.accept (hhmac : ∀ key message, (digests.hmac key message).length = 32)
    {req : SttUpgrade} {handoff : SignedHandoff} (h : WellSealed digests req handoff)
    (hnow : 0 ≤ req.nowMs ∧ req.nowMs ≤ 8640000000000000) :
    ∃ headers, handoff.headers = some headers ∧ headerText headers.sig "" = handoff.sig ∧
      ∀ mintedId nowSec (t : ℚ), nowSec.HasValue t →
        headers.accept digests req.aigToken mintedId nowSec =
          if t ≤ req.expSec then .ok handoff.claims
          else .error ⟨.forbidden, "STT session handoff signature invalid or expired."⟩ := by
  obtain ⟨headers, hheaders, hcarries⟩ := h.headers hnow
  refine ⟨headers, hheaders, hcarries.sig, fun mintedId nowSec t ht => ?_⟩
  obtain ⟨secret, hsecret, hseal⟩ := h.sealed
  have hclaims : headers.claims mintedId (Number.ofText handoff.claims.exp.text) =
      handoff.claims := by
    rw [HandoffHeaders.claims, hcarries.accountId, hcarries.clientId, hcarries.planId,
      hcarries.requestId, hcarries.modelId, Number.ofText_text]
  -- nothing is missing, and the expiry is a number after 1970
  have hsig : handoff.sig ≠ "" := by
    intro hempty
    have hblank : Media.b64url (handoffTag digests secret handoff.claims) = "" :=
      hseal.symm.trans hempty
    have hlen := length_b64url (handoffTag digests secret handoff.claims)
    rw [hblank, handoffTag, hhmac] at hlen
    cases hlen
  have hexpPos : 0 < req.expSec ∧ req.expSec.toNat < 2 ^ 53 := by
    rw [SttUpgrade.expSec, show STT_HANDOFF_TTL_SEC = 60 from rfl]
    omega
  have hexpText : handoff.claims.exp.text ≠ "" := by
    rw [Number.text_natCast (hasValue_natCast h.exp hexpPos.1.le) hexpPos.2]
    exact Nat.repr_ne_empty
  have hpositive : handoff.claims.exp.le (Number.ofRat 0) = false := by
    have hzero : (Number.ofRat 0).HasValue ((0 : Int) : ℚ) := by
      have := Number.ofRat_intCast (n := 0) (by decide)
      rwa [Int.cast_zero] at this ⊢
    rw [Bool.eq_false_iff, ne_eq, h.exp.le_iff hzero]
    exact_mod_cast not_le.mpr hexpPos.1
  have hverify : verifySttHandoff digests secret handoff.claims handoff.sig nowSec =
      decide (t ≤ req.expSec) := by
    have hexpired : handoff.claims.exp.lt nowSec = decide ((req.expSec : ℚ) < t) :=
      Bool.eq_iff_iff.mpr ((h.exp.lt_iff ht).trans decide_eq_true_iff.symm)
    rw [verifySttHandoff, hseal, signSttHandoff, Media.b64urlToBytes_b64url, h.exp.isInteger,
      hexpired]
    by_cases hfresh : t ≤ req.expSec
    · simp [hfresh]
    · simp [hfresh, not_le.mp hfresh]
  unfold HandoffHeaders.accept
  dsimp only
  rw [hcarries.exp, hcarries.sig, hclaims, hsecret]
  rw [if_neg (by simp [h.accountId.nonempty, h.clientId.nonempty,
    h.planId.nonempty, hsig, hexpText]), if_neg (not_not.mpr h.modelId)]
  dsimp only
  rw [Number.ofText_text, h.exp.isInteger, hpositive, if_neg (by simp), hverify]
  by_cases hfresh : t ≤ req.expSec
  · simp [hfresh]
  · simp [hfresh]

/-- What the Worker hands over, the session accepts as it is, until the expiry. -/
theorem handoff_accepted (hhmac : ∀ key message, (digests.hmac key message).length = 32)
    (h : AccessRun digests catalog Calls now c) (hminted : PlatformMinted Calls) {req : SttUpgrade}
    {handoff : SignedHandoff} (hdone : .done (.handedOff req (.ok handoff)) ∈ c.threads) :
    ∃ headers, handoff.headers = some headers ∧
      ∀ mintedId nowSec (t : ℚ), nowSec.HasValue t →
        headers.accept digests req.aigToken mintedId nowSec =
          if t ≤ req.expSec then .ok handoff.claims
          else .error ⟨.forbidden, "STT session handoff signature invalid or expired."⟩ := by
  obtain ⟨hcall, -⟩ := h.handedOff hdone
  obtain ⟨headers, hheaders, -, haccept⟩ :=
    (h.wellSealed hminted hdone).accept hhmac (hminted.nowMs req hcall)
  exact ⟨headers, hheaders, haccept⟩

end handoff

/-! ## A session -/

/-- The upgrade of an app with its key. -/
def sealUpgrade : SttUpgrade where
  authorization := some ("Bearer " ++ sampleKeyBytes.clientKey)
  protocol := none
  nowMs := 1000
  requestId := newRequestId (.replicate 12 1)
  sessionBound := true
  aiBound := true
  aigToken := some "a-gateway-token-to-sign-with"

/-- What the session of the app is told. -/
def sealClaims : HandoffClaims where
  accountId := sampleAccountId
  clientId := sampleClientId
  planId := "dev"
  requestId := sealUpgrade.requestId
  modelId := FLUX_STT_MODEL
  exp := (Number.ofRat (sealUpgrade.nowMs / 1000 : Int)).add (Number.ofRat STT_HANDOFF_TTL_SEC)

/-- An HMAC that no other text has. -/
def sealDigests : Media.Digests where
  sha256 := List.take 8
  hmac _ message :=
    if message = TextEncoder.encode (handoffPayload sealClaims) then .replicate 32 1
    else .replicate 32 0

/-- An app enrolls, and opens a session. -/
def sealCalls : List AccessCall := sampleCalls.take 3 ++ [.sttUpgrade sealUpgrade]

/-- A client enrolls, upgrades by its key and is handed over. -/
def sealRun : Pool AccessDb AccessAnswer :=
  Pool.exec ⟨.migrated 0, sealCalls.map fun call => call.script sealDigests [sampleFluxEntry]⟩
    [0, 0, 0, 1, 1, 2, 2, 2, 2, 2, 2, 2, 3, 3, 3, 3, 3, 3, 3, 3]

/-- The sample run is a run of the access system. -/
theorem accessRun_sealRun : AccessRun sealDigests [sampleFluxEntry] (· ∈ sealCalls) 0 sealRun :=
  accessRun_exec (fun _ h => h) _

/-- Its ids are minted by the platform. -/
theorem platformMinted_sealCalls : PlatformMinted (· ∈ sealCalls) where
  accountId raw accountId grantId h := by
    simp [sealCalls, sampleCalls] at h
    exact ⟨_, h.2.1⟩
  requestId req h := by
    obtain rfl : req = sealUpgrade := by simpa [sealCalls, sampleCalls] using h
    exact ⟨_, rfl⟩
  nowMs req h := by
    obtain rfl : req = sealUpgrade := by simpa [sealCalls, sampleCalls] using h
    decide

/-- The sample hash is 32 bytes long. -/
theorem length_sealDigests (key message : List UInt8) :
    (sealDigests.hmac key message).length = 32 := by
  unfold sealDigests
  dsimp only
  split <;> rfl

/-- The sample's session is handed over for its account, client and plan. -/
def handsOffSealed : AccessAnswer → Bool
  | .handedOff req (.ok handoff) => req = sealUpgrade ∧
    handoff.claims.accountId = sampleAccountId ∧ handoff.claims.clientId = sampleClientId ∧
    handoff.claims.planId = "dev"
  | _ => false

/-- The session of the sample is handed over with these claims. -/
theorem exists_sealRun : ∃ handoff, .done (.handedOff sealUpgrade (.ok handoff)) ∈ sealRun.threads ∧
    handoff.claims = sealClaims := by
  -- the run is computed, and its handoff read off the answer
  have hanswered : (sealRun.threads[3]?).any (answered handsOffSealed) = true := by
    decide +kernel
  obtain ⟨answer, hget, hkind⟩ := exists_of_answered hanswered
  unfold handsOffSealed at hkind
  split at hkind
  next req handoff =>
    obtain ⟨rfl, haccount, hclient, hplan⟩ := of_decide_eq_true hkind
    have hmem := List.mem_of_getElem? hget
    obtain ⟨-, s, hover⟩ := accessRun_sealRun.handedOff hmem
    obtain ⟨auth, caller, secret, -, -, -, rfl⟩ := hover handoff rfl
    refine ⟨_, hmem, ?_⟩
    dsimp only at haccount hclient hplan ⊢
    unfold SttUpgrade.claimsFor at haccount hclient hplan ⊢
    dsimp only at haccount hclient hplan
    rw [haccount, hclient, hplan]
    rfl
  next => cases hkind

/-- The session of the sample is accepted in its last second. -/
theorem handoff_accepted_sample : ∃ handoff headers,
    .done (.handedOff sealUpgrade (.ok handoff)) ∈ sealRun.threads ∧
    handoff.headers = some headers ∧
    headers.accept sealDigests sealUpgrade.aigToken "" (Number.ofRat (61 : Int)) =
      .ok handoff.claims := by
  obtain ⟨handoff, hmem, -⟩ := exists_sealRun
  obtain ⟨headers, hheaders, haccept⟩ :=
    handoff_accepted length_sealDigests accessRun_sealRun platformMinted_sealCalls hmem
  refine ⟨handoff, headers, hmem, hheaders, ?_⟩
  rw [haccept "" _ (61 : Int) (Number.ofRat_intCast (by decide)), if_pos]
  exact_mod_cast (by decide : (61 : Int) ≤ sealUpgrade.expSec)

/-- And what it was told was handed over. -/
theorem session_only_handed_over_sample : ∃ (headers : HandoffHeaders) (claims : HandoffClaims),
    headers.accept sealDigests sealUpgrade.aigToken "req" (Number.ofRat (61 : Int)) = .ok claims ∧
    ∃ req handoff, .done (.handedOff req (.ok handoff)) ∈ sealRun.threads ∧
      handoff.claims = claims := by
  obtain ⟨handoff, hmem, hclaims⟩ := exists_sealRun
  have hsealed := accessRun_sealRun.wellSealed platformMinted_sealCalls hmem
  obtain ⟨headers, -, hsig, haccept⟩ := hsealed.accept length_sealDigests (by decide)
  have hok : headers.accept sealDigests sealUpgrade.aigToken "req" (Number.ofRat (61 : Int)) =
      .ok handoff.claims := by
    rw [haccept "req" _ (61 : Int) (Number.ofRat_intCast (by decide)), if_pos]
    exact_mod_cast (by decide : (61 : Int) ≤ sealUpgrade.expSec)
  -- no other text has the HMAC of the handoff
  have hideal : UnforgedHandoff sealDigests (handedOver sealRun) sealUpgrade.aigToken
      (headerText headers.sig "") := by
    intro secret message tag _ htag hmessage
    refine ⟨handoff.claims, ⟨_, _, hmem, rfl⟩, ?_⟩
    obtain ⟨secret', -, hseal⟩ := hsealed.sealed
    rw [hsig, hseal, signSttHandoff, Media.b64urlToBytes_b64url, Option.some.injEq, handoffTag,
      hclaims] at htag
    rw [← htag] at hmessage
    by_contra hother
    rw [hclaims] at hother
    simp only [sealDigests, if_neg hother] at hmessage
    cases hmessage
  obtain ⟨req, handoff', hdone, hsame, -⟩ := session_only_handed_over accessRun_sealRun
    platformMinted_sealCalls (idText_of_all (by decide) (by decide)) hok hideal
  exact ⟨headers, _, hok, req, handoff', hdone, hsame⟩

end ControlPlane
