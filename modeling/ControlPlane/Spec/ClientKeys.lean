import ControlPlane.Spec.AccessCalls

/-!
# Client keys

A key that was handed out resolves to the client it was handed out for, until somebody
revokes that client or suspends its account; no other bearer resolves to anything; and no
caller is ever refused because a row it refers to is missing or unusable. The requests that
ask may start at any moment of any interleaving of the calls.

## Key results

- `issued_key_opens`: a key that was answered is good for its client
- `resolved_key_issued`: a key that resolves was answered
- `access_never_misconfigured`: referential integrity of the tables and of what is answered
-/

namespace ControlPlane

section keys

variable {digests : Media.Digests} {catalog : Catalog} {Calls : AccessCall → Prop} {now : Int}
  {c c' : Pool AccessDb AccessAnswer}

/-- What the bearer of an answered key is resolved to. -/
inductive OpensFor (Calls : AccessCall → Prop) (response : EnrollResponse) :
    Except ApiError Caller → Prop
  | caller (caller : Caller) (hclient : caller.client.id = response.clientId)
      (haccount : caller.account.id = response.accountId) : OpensFor Calls response (.ok caller)
  | revoked (h : Calls (.revokeClient response.clientId)) :
      OpensFor Calls response (.error ResolveFailure.revoked.response)
  | suspended (h : Suspends Calls response.accountId) :
      OpensFor Calls response (.error ResolveFailure.suspended.response)

/-- The clients that present a key of the plane are one. -/
theorem eq_of_presentsKey {db : AccessDb} (hdb : Sound digests Calls db) {random : KeyBytes}
    {row client : ClientRow} (hrow : row ∈ db.clients) (hissued : IssuedBy digests random row)
    (hclient : client ∈ db.clients)
    (h : PresentsKey digests (some ("Bearer " ++ random.clientKey)) client) : client = row := by
  obtain ⟨key, hkey, hid, -⟩ := h
  rw [presented_clientKey] at hkey
  obtain rfl := Option.some.inj hkey
  exact hdb.distinct.eq_of_keyId hclient hrow (hid.trans hissued.2.1.symm)

/-- A request that starts once a key was answered, with the key as its bearer, is that client. -/
theorem issued_key_opens (h : AccessRun digests catalog Calls now c) {random : KeyBytes}
    {response : EnrollResponse} (hissued : .done (.enrolled random (.enrolled response)) ∈ c.threads)
    (hcall : Calls (.authenticate (some ("Bearer " ++ response.key)))) {n : Nat}
    (hstart : c.threads[n]? = some
      ((AccessCall.authenticate (some ("Bearer " ++ response.key))).script digests catalog))
    (hreach : Pool.Reach (IsCall digests catalog Calls) c c') {answer : AccessAnswer}
    (hdone : c'.threads[n]? = some (.done answer)) :
    ∃ result, answer = .authenticated (some ("Bearer " ++ response.key)) result ∧
      OpensFor Calls response result := by
  obtain ⟨ip, body, -, hkey, row, hrow, hby, hclientId, haccountId⟩ := h.enrolled hissued
  obtain ⟨result, rfl, resolved, rfl, hres⟩ := h.result hcall hstart hreach hdone
  refine ⟨_, rfl, ?_⟩
  rw [hkey] at hres
  -- the client of the key is still there, and is the only one the key is presented for
  obtain ⟨row', hrow', hkeep⟩ := (h.later hreach).clients row hrow
  obtain ⟨hid, haccount, hkeyId, hhash⟩ := hkeep.fields
  have hby' : IssuedBy digests random row' :=
    ⟨hid.trans hby.1, hkeyId.trans hby.2.1, hhash.trans hby.2.2⟩
  have hsound' : Sound digests Calls c'.store := AccessRun.sound (h.trans hreach)
  have honly {client : ClientRow} (hclient : client ∈ c'.store.clients)
      (hpresents : PresentsKey digests (some ("Bearer " ++ random.clientKey)) client) :
      client.id = response.clientId ∧ client.accountId = response.accountId := by
    obtain rfl := eq_of_presentsKey hsound' hrow' hby' hclient hpresents
    exact ⟨hid.trans hclientId, haccount.trans haccountId⟩
  cases resolved with
  | ok caller =>
    obtain ⟨hlive, hpresents⟩ := hres
    obtain ⟨client, hclient, hkeeps⟩ := hlive.row
    obtain ⟨hclientId', haccountId'⟩ := honly hclient (hpresents.of_keeps hkeeps)
    obtain ⟨hsame, hsameAccount, -, -⟩ := hkeeps.fields
    exact .caller caller (hsame.symm.trans hclientId')
      (hlive.account.trans (hsameAccount.symm.trans haccountId'))
  | error failure =>
    cases failure with
    | unauthenticated =>
      exact absurd ⟨_, presented_clientKey random, hby.2.1, hby.2.2⟩ (hres row hrow)
    | revoked =>
      obtain ⟨client, hclient, hpresents, hrevokes⟩ := hres
      exact .revoked ((honly hclient hpresents).1 ▸ hrevokes)
    | suspended =>
      obtain ⟨client, hlive, hpresents, hsuspends⟩ := hres
      obtain ⟨client', hclient', hkeeps⟩ := hlive.row
      obtain ⟨-, haccountId'⟩ := honly hclient' (hpresents.of_keeps hkeeps)
      obtain ⟨-, hsameAccount, -, -⟩ := hkeeps.fields
      exact .suspended ((hsameAccount.symm.trans haccountId') ▸ hsuspends)
    | misconfigured detail => exact absurd hres id

variable (digests Calls) in
/-- No secret but its own hashes to what an enrollment stored. -/
def NoCollision (authorization : Option String) : Prop :=
  ∀ key ip body random, (bearerFromRequest authorization).bind parseClientKey = some key →
    Calls (.enroll ip body random) → sha256Hex digests.sha256 key.secret =
      sha256Hex digests.sha256 (randomSecret random.secret) → key.secret = randomSecret random.secret

/-- A bearer that is resolved is a key that an enrollment minted, for the client it made. -/
theorem resolved_key_issued (h : AccessRun digests catalog Calls now c)
    {authorization : Option String} {caller : Caller}
    (hdone : .done (.authenticated authorization (.ok caller)) ∈ c.threads)
    (hideal : NoCollision digests Calls authorization) :
    ∃ ip body random, Calls (.enroll ip body random) ∧
      bearerFromRequest authorization = some random.clientKey ∧
      caller.client.id = newId "cli" random.clientId ∧
      ∃ row ∈ c.store.clients, IssuedBy digests random row ∧ row.accountId = caller.account.id := by
  obtain ⟨s, hanswer⟩ := h.authenticated hdone
  obtain ⟨hlive, key, hkey, hkeyId, hhash⟩ := hanswer.ok
  obtain ⟨row, hrow, hkeep⟩ := hlive.row
  obtain ⟨hid, haccount, hsameKey, hsameHash⟩ := hkeep.fields
  obtain ⟨ip, body, random, hcall, hby⟩ := (h.sound.clients row hrow).issued
  refine ⟨ip, body, random, hcall, ?_, hid.symm.trans hby.1, row, hrow, hby,
    haccount.trans hlive.account.symm⟩
  obtain ⟨raw, hraw, hparse⟩ := Option.bind_eq_some_iff.mp hkey
  have hsecret := hideal key ip body random hkey hcall
    (hhash.symm.trans (hsameHash.symm.trans hby.2.2))
  rw [hraw, (format_of_parseClientKey hparse).1, hsecret, ← hkeyId, ← hsameKey, hby.2.1]
  rfl

/-- No row refers to one that is missing, and no caller is refused for it: a caller that is
    resolved comes with its own account and a plan that can be used, and no refusal of a key or
    a token is about the rows behind it. -/
theorem access_never_misconfigured (h : AccessRun digests catalog Calls now c) :
    Sound digests Calls c.store ∧
    (∀ authorization caller, .done (.authenticated authorization (.ok caller)) ∈ c.threads →
      caller.account.id = caller.client.accountId ∧ caller.plan.id = caller.account.planId ∧
        ∃ plan, planFromRow caller.plan = .ok plan) ∧
    (∀ authorization err, .done (.authenticated authorization (.error err)) ∈ c.threads →
      err.code ≠ .unavailable) ∧
    (∀ random err, .done (.enrolled random (.error err)) ∈ c.threads →
      err.code = .unavailable → ∃ ip, Calls (.enroll ip (.error err) random)) := by
  refine ⟨h.sound, fun authorization caller hdone => ?_, fun authorization err hdone hcode => ?_,
    fun random err hdone hcode => ?_⟩
  · obtain ⟨s, hanswer⟩ := h.authenticated hdone
    obtain ⟨hlive, -⟩ := hanswer.ok
    exact ⟨hlive.account, hlive.plan, hlive.usable⟩
  -- the only failure that is unavailable is a row that is missing
  · obtain ⟨s, resolved, hanswer, hres⟩ := h.authenticated hdone
    cases resolved with
    | ok caller => cases hanswer
    | error failure =>
      obtain rfl := Except.error.inj hanswer
      cases failure with
      | misconfigured detail => exact hres
      | _ => cases hcode
  · obtain ⟨ip, body, hcall, hanswer⟩ := h.enrolled hdone
    obtain rfl := hanswer hcode
    exact ⟨ip, hcall⟩

end keys

/-! ## A run -/

/-- SHA-256 is not computed here: the first bytes stand for the digest. -/
def sampleDigests : Media.Digests := ⟨List.take 8, fun key message => key ++ message⟩

/-- The random bytes of the sample key. -/
def sampleKeyBytes : KeyBytes := ⟨.replicate 6 1, .replicate 8 2, .replicate 32 3⟩

/-- The id of the sample account. -/
def sampleAccountId : String := newId "acct" (.replicate 6 5)

/-- An account, a token for it, an app that enrolls with the token and one that has its key. -/
def sampleCalls : List AccessCall :=
  [.createAccount (.obj [("plan_id", .str "dev")]) sampleAccountId "grant",
    .createEnrollment (.obj [("account_id", .str sampleAccountId)]) 0 "a-token-of-the-operator",
    .enroll "192.0.2.1" (.ok (.obj [("enrollment_token", .str "a-token-of-the-operator")]))
      sampleKeyBytes,
    .authenticate (some ("Bearer " ++ sampleKeyBytes.clientKey))]

/-- The key is answered, and the request with it has not read anything. -/
def sampleIssued : Pool AccessDb AccessAnswer :=
  Pool.exec ⟨.migrated 0, sampleCalls.map fun call => call.script sampleDigests []⟩
    [0, 0, 0, 1, 1, 2, 2, 2, 2, 2, 2, 2]

/-- The request has its caller. -/
def sampleOpened : Pool AccessDb AccessAnswer := sampleIssued.exec [3, 3, 3]

theorem accessRun_sampleIssued : AccessRun sampleDigests [] (· ∈ sampleCalls) 0 sampleIssued :=
  accessRun_exec (fun _ h => h) _

theorem accessRun_sampleOpened : AccessRun sampleDigests [] (· ∈ sampleCalls) 0 sampleOpened :=
  accessRun_sampleIssued.trans (Pool.reach_exec _ _)

/-- The sample's key is handed out. -/
def enrollsSample : AccessAnswer → Bool
  | .enrolled random (.enrolled _) => random = sampleKeyBytes
  | _ => false

/-- The sample's request is let in. -/
def admitsSample : AccessAnswer → Bool
  | .authenticated authorization (.ok _) =>
    authorization = some ("Bearer " ++ sampleKeyBytes.clientKey)
  | _ => false

/-- The enrollment of the sample answers its key. -/
theorem exists_sampleIssued : ∃ response,
    .done (.enrolled sampleKeyBytes (.enrolled response)) ∈ sampleIssued.threads := by
  have hanswered : (sampleIssued.threads[2]?).any (answered enrollsSample) = true := by
    decide +kernel
  obtain ⟨answer, hget, hkind⟩ := exists_of_answered hanswered
  unfold enrollsSample at hkind
  split at hkind
  next random response =>
    rw [of_decide_eq_true hkind] at hget
    exact ⟨response, List.mem_of_getElem? hget⟩
  next => cases hkind

/-- The request of the sample is resolved. -/
theorem exists_sampleOpened : ∃ caller, sampleOpened.threads[3]? = some (.done (.authenticated
    (some ("Bearer " ++ sampleKeyBytes.clientKey)) (.ok caller))) := by
  have hanswered : (sampleOpened.threads[3]?).any (answered admitsSample) = true := by
    decide +kernel
  obtain ⟨answer, hget, hkind⟩ := exists_of_answered hanswered
  unfold admitsSample at hkind
  split at hkind
  next authorization caller =>
    rw [of_decide_eq_true hkind] at hget
    exact ⟨caller, hget⟩
  next => cases hkind

/-- The key of the sample opens the door for its client. -/
theorem issued_key_opens_sample : ∃ response caller,
    .done (.enrolled sampleKeyBytes (.enrolled response)) ∈ sampleIssued.threads ∧
    OpensFor (· ∈ sampleCalls) response (.ok caller) := by
  obtain ⟨response, hissued⟩ := exists_sampleIssued
  obtain ⟨caller, hopened⟩ := exists_sampleOpened
  obtain ⟨-, -, -, hkey, -⟩ := accessRun_sampleIssued.enrolled hissued
  rw [← hkey] at hopened
  have hcall : .authenticate (some ("Bearer " ++ response.key)) ∈ sampleCalls := by
    rw [hkey]
    simp [sampleCalls]
  have hstart : sampleIssued.threads[3]? = some
      ((AccessCall.authenticate (some ("Bearer " ++ response.key))).script sampleDigests []) := by
    rw [hkey]
    exact Pool.getElem?_exec (by decide) _
  obtain ⟨result, hanswer, hopens⟩ := issued_key_opens accessRun_sampleIssued hissued hcall hstart
    (Pool.reach_exec sampleIssued [3, 3, 3]) hopened
  cases hanswer
  exact ⟨response, caller, hissued, hopens⟩

/-- The key of the sample is the one that was minted. -/
theorem resolved_key_issued_sample : ∃ ip body random,
    .enroll ip body random ∈ sampleCalls ∧
    bearerFromRequest (some ("Bearer " ++ sampleKeyBytes.clientKey)) = some random.clientKey := by
  obtain ⟨caller, hopened⟩ := exists_sampleOpened
  obtain ⟨ip, body, random, hcall, hbearer, -⟩ := resolved_key_issued accessRun_sampleOpened
    (List.mem_of_getElem? hopened) fun key ip body random hkey hcall _ => by
      -- the bearer is the key that was minted
      rw [presented_clientKey] at hkey
      obtain rfl : random = sampleKeyBytes := by
        simp only [sampleCalls, List.mem_cons, List.not_mem_nil, reduceCtorEq, or_false, false_or,
          AccessCall.enroll.injEq] at hcall
        exact hcall.2.2
      exact (ParsedKey.mk.inj (Option.some.inj hkey)).2.symm
  exact ⟨ip, body, random, hcall, hbearer⟩

/-- The caller of the sample has a plan that can be used. -/
theorem access_never_misconfigured_sample : ∃ caller : Caller,
    .done (.authenticated (some ("Bearer " ++ sampleKeyBytes.clientKey)) (.ok caller)) ∈
      sampleOpened.threads ∧ ∃ plan, planFromRow caller.plan = .ok plan := by
  obtain ⟨caller, hopened⟩ := exists_sampleOpened
  have hmem := List.mem_of_getElem? hopened
  obtain ⟨-, hcallers, -⟩ := access_never_misconfigured accessRun_sampleOpened
  exact ⟨caller, hmem, (hcallers _ caller hmem).2.2⟩

end ControlPlane
