import ControlPlane.Spec.CallerResolution

/-!
# What the calls answer

Each call keeps the tables sound among any others, and what it answers is stated against
two stores: the one it started at and the one it ends at.

## Key results

- `enroll_under`: the key an enrollment answers is the key of a client there is
- `createSttSession_under` / `sttUpgrade_under`: whom a ticket and a session are for
- `script_under`: every call keeps to the discipline and answers as stated
- `AccessRun.result` / `AccessRun.sound`: so do all of them, in any interleaving
-/

namespace ControlPlane

open Rows Script

section zoom

variable {α β : Type}

/-- One script after another on the ledger, taken as one. -/
theorem onMoney_bind (p : Script Db α) (f : α → Script Db β) :
    onMoney (p >>= f) = (onMoney p).bind fun a => onMoney (f a) := Script.zoom_bind p f

/-- One statement on the ledger. -/
theorem onMoney_exec (f : Db → Db × α) : onMoney (Script.exec f) =
    Script.exec fun db => ({ db with ledger := (f db.ledger).1 }, (f db.ledger).2) := rfl

/-- One statement on the identity tables. -/
theorem onIdentity_exec (f : IdentityDb → IdentityDb × α) : onIdentity (Script.exec f) =
    Script.exec fun db => (db.setIdentity (f db.identity).1, (f db.identity).2) := rfl

/-- One script after another on the identity tables, taken as one. -/
theorem onIdentity_bind (p : Script IdentityDb α) (f : α → Script IdentityDb β) :
    onIdentity (p >>= f) = (onIdentity p).bind fun a => onIdentity (f a) := Script.zoom_bind p f

end zoom

section under

variable {digests : Media.Digests} {Calls : AccessCall → Prop}

/-! ## Money and rate buckets -/

/-- A script that only makes ledger steps leaves a later store. -/
theorem onMoney_under {α : Type} {p : Script Db α} (h : p.Steps LedgerStep) (s : AccessDb) :
    (onMoney p).Under (access digests Calls) (fun _ t => Later Calls s t) s :=
  Under.of_steps (D := access digests Calls)
    (h.zoom fun _ _ hstep ht => (Writes.setLedger hstep).allows ht) s

/-- So does any script on the rate buckets. -/
theorem onRateBuckets_under {α : Type} (p : Script RateBuckets α) (s : AccessDb) :
    (onIdentity (onRateBuckets p)).Under (access digests Calls) (fun _ t => Later Calls s t) s := by
  have hbuckets : (onRateBuckets p).Steps fun a b : IdentityDb => ∃ buckets,
      b = { a with rateBuckets := buckets } :=
    (Steps.any p).zoom fun _ buckets _ => ⟨buckets, rfl⟩
  refine Under.of_steps (D := access digests Calls) (hbuckets.zoom fun t tables htables ht => ?_) s
  obtain ⟨buckets, rfl⟩ := htables
  have hwrites : Writes digests Calls t
      (t.setIdentity { t.identity with rateBuckets := buckets }) := .of_eq rfl rfl rfl rfl
  exact hwrites.allows ht

/-! ## Operator routes -/

/-- A plan that is written has a slug for its id. -/
theorem isPlanId_of_planRowOf {raw : Json} {row : PlanRow} (h : planRowOf raw = .ok row) :
    isPlanId row.id = true := by
  have hbind {α β : Type} {x : Except ApiError α} {f : α → Except ApiError β} {b : β}
      (hx : x.bind f = .ok b) : ∃ a, x = .ok a ∧ f a = .ok b := by
    cases x with
    | error err => cases hx
    | ok a => exact ⟨a, rfl, hx⟩
  -- the id is checked first, and is the one of the row that is put together last
  obtain ⟨id, hid, h⟩ := hbind h
  obtain ⟨_, -, h⟩ := hbind h
  obtain ⟨_, -, h⟩ := hbind h
  obtain ⟨_, -, h⟩ := hbind h
  obtain ⟨_, -, h⟩ := hbind h
  obtain ⟨_, -, h⟩ := hbind h
  obtain ⟨_, -, h⟩ := hbind h
  have hslug : isPlanId id = true := by
    unfold planId at hid
    split at hid
    next => cases hid
    next id' hfilter =>
      obtain rfl := Except.ok.inj hid
      exact (Option.filter_eq_some_iff.mp hfilter).2
  dsimp only at h
  split at h
  · cases h
  · obtain rfl := Except.ok.inj h
    exact hslug

/-- Upserting a plan keeps to the statements of the system. -/
theorem upsertPlan_under (raw : Json) (s : AccessDb) :
    (handleUpsertPlan raw).Under (access digests Calls) (fun _ _ => True) s := by
  unfold handleUpsertPlan
  split
  · exact .done fun _ _ _ => trivial
  next row hrow =>
    split
    · exact .done fun _ _ _ => trivial
    next plan hplan =>
      refine Under.read_bind fun t _ _ => Under.exec_bind fun u hu _ => ?_
      exact ⟨(Writes.putPlan (isPlanId_of_planRowOf hrow) ⟨plan, hplan⟩).allows hu,
        .done fun _ _ _ => trivial⟩

/-- A new account on a plan there is. -/
theorem createAccount_under {args : CreateAccountArgs} {s : AccessDb}
    (hplan : (s.ledger.plans args.planId).isSome) (hopens : Opens Calls args.id) :
    (onMoney (createAccount args)).Under (access digests Calls) (fun _ _ => True) s := by
  rw [createAccount, onMoney_bind, onMoney_exec]
  refine Under.exec_bind fun t ht hst => ?_
  refine ⟨(Writes.createAccount (Later.plan_isSome hst hplan) hopens).allows ht, ?_⟩
  dsimp only
  split
  · rw [onMoney_bind]
    refine Under.read_bind fun u _ _ => ?_
    dsimp only
    split <;> exact .done fun _ _ _ => trivial
  · exact .done fun _ _ _ => trivial

/-- So does creating an account, where the call is one of the system's. -/
theorem handleCreateAccount_under {raw : Json} {accountId grantId : String}
    (hcall : Calls (.createAccount raw accountId grantId)) (s : AccessDb) :
    (onMoney (handleCreateAccount raw accountId grantId)).Under (access digests Calls)
      (fun _ _ => True) s := by
  unfold handleCreateAccount
  split
  · exact .done fun _ _ _ => trivial
  split
  · exact .done fun _ _ _ => trivial
  rw [onMoney_bind]
  refine Under.read_bind fun t ht _ => ?_
  dsimp only
  split
  · exact .done fun _ _ _ => trivial
  next plan hplan =>
    -- the plan was found under its own id, so the account can refer to it
    have hkey := (Sound.plans ht (_, plan) hplan).key
    have hsome : (t.ledger.plans plan.id).isSome := by
      rw [show plan.id = _ from hkey]
      exact Option.isSome_iff_exists.mpr ⟨plan, hplan⟩
    rw [onMoney_bind]
    apply Under.bind ht
    refine (createAccount_under hsome ⟨raw, grantId, hcall⟩).weaken fun account u _ _ => ?_
    cases account <;> exact .done fun _ _ _ => trivial

/-- A new token for an account there is. -/
theorem createEnrollment_under {args : CreateEnrollmentArgs} {s : AccessDb}
    (haccount : (s.ledger.accounts args.accountId).isSome) :
    (createEnrollment args).Under (access digests Calls) (fun _ _ => True) s := by
  refine Under.exec_bind fun t ht hst => ?_
  exact ⟨(Writes.insertEnrollment (Later.account_isSome hst haccount)).allows ht,
    .done fun _ _ _ => trivial⟩

/-- So does minting an enrollment token. -/
theorem handleCreateEnrollment_under (raw : Json) (nowMs : Int) (token : String) (s : AccessDb) :
    (handleCreateEnrollment digests.sha256 raw nowMs token).Under (access digests Calls)
      (fun _ _ => True) s := by
  unfold handleCreateEnrollment
  split
  · exact .done fun _ _ _ => trivial
  split
  · exact .done fun _ _ _ => trivial
  refine Under.read_bind fun t ht _ => ?_
  split
  · exact .done fun _ _ _ => trivial
  next account haccount =>
    -- the account was found under its own id, so the token can refer to it
    have hkey := (Sound.accounts ht (_, account) haccount).key
    have hsome : (t.ledger.accounts account.id).isSome := by
      rw [show account.id = _ from hkey]
      exact Option.isSome_iff_exists.mpr ⟨account, haccount⟩
    refine Under.bind ht ((createEnrollment_under hsome).weaken fun created u _ _ => ?_)
    cases created <;> exact .done fun _ _ _ => trivial

/-- A client that was there when its revocation was asked for is revoked when it is answered. -/
theorem revokeClient_under {clientId : String} (hcall : Calls (.revokeClient clientId))
    (s : AccessDb) : (handleRevokeClient clientId).Under (access digests Calls) (fun response t =>
      response.clientId = clientId ∧ ∀ row ∈ s.clients, row.id = clientId →
        ∃ row' ∈ t.clients, row'.id = clientId ∧ row'.revokedAt.isSome) s := by
  refine Under.exec_bind fun t ht hst => ⟨(Writes.revoke hcall).allows ht, ?_⟩
  refine .done fun u _ htu => ⟨rfl, fun row hrow hid => ?_⟩
  obtain ⟨row₁, hrow₁, hkeep₁⟩ := Later.clients hst row hrow
  have hid₁ : row₁.id = clientId := hkeep₁.fields.1.trans hid
  have hrow₂ : AccessDb.revokedRow clientId t.datetimeNow row₁ ∈ (t.revoke clientId).1.clients :=
    List.mem_map_of_mem hrow₁
  -- an open row is revoked now, and one that was revoked stays so
  have hrevoked : (AccessDb.revokedRow clientId t.datetimeNow row₁).revokedAt.isSome := by
    unfold AccessDb.revokedRow
    split
    next => rfl
    next hnot => exact Option.isSome_iff_ne_none.mpr fun hnone => hnot ⟨hid₁, hnone⟩
  have hid₂ : (AccessDb.revokedRow clientId t.datetimeNow row₁).id = clientId := by
    unfold AccessDb.revokedRow
    split <;> exact hid₁
  -- and the answer finds the row still there
  obtain ⟨row₃, hrow₃, hkeep₃⟩ := Later.clients htu _ hrow₂
  refine ⟨row₃, hrow₃, hkeep₃.fields.1.trans hid₂, ?_⟩
  rw [hkeep₃.stays hrevoked]
  exact hrevoked

/-! ## Enrollment -/

variable (digests) in
/-- The client an answered enrollment made, under the key it was answered. No token leads to
    an account that is missing. -/
def EnrolledAs (body : Except ApiError Json) (random : KeyBytes) :
    EnrollAnswer → AccessDb → Prop
  | .enrolled response, t => response.key = random.clientKey ∧ ∃ row ∈ t.clients,
      IssuedBy digests random row ∧ row.id = response.clientId ∧ row.accountId = response.accountId
  | .error err, _ => err.code = .unavailable → body = .error err
  | .rateLimited _ _, _ => True

/-- A client row that was inserted is there, and is what is read back under its id. -/
theorem createClient_under {client : NewClient} {s : AccessDb}
    (h : ∀ t, Later Calls s t → SoundClient digests Calls t (client.row t.datetimeNow)) :
    (onIdentity (createClient client)).Under (access digests Calls) (fun created t =>
      ∀ row, created = .ok row → row.id = client.id ∧ ∃ stored ∈ t.clients, ∃ time,
        KeepsClient Calls (client.row time) stored) s := by
  rw [createClient, onIdentity_bind, onIdentity_exec]
  refine Under.exec_bind fun t ht hst => ⟨(Writes.insertClient (h t hst)).allows ht, ?_⟩
  dsimp only
  split
  next hinserted =>
    -- the row is the last of the table, and stays there
    have hmem : client.row t.datetimeNow ∈
        (t.setIdentity (t.identity.insertClient (client.row t.identity.datetimeNow)).1).clients := by
      rcases Table.insertOrIgnore_cases IdentityDb.clientConflict (client.row t.datetimeNow)
        t.identity.clients with ⟨heq, -⟩ | ⟨heq, -⟩
      · rw [IdentityDb.insertClient, show t.identity.datetimeNow = t.datetimeNow from rfl,
          heq] at hinserted
        cases hinserted
      · show _ ∈ (Table.insertOrIgnore _ _ _).1
        rw [show t.identity.datetimeNow = t.datetimeNow from rfl, heq]
        exact List.mem_append_right _ List.mem_cons_self
    rw [readBackClient, onIdentity_bind]
    refine Under.read_bind fun u _ htu => ?_
    obtain ⟨stored, hstored, hkeep⟩ := Later.clients htu _ hmem
    dsimp only
    split
    · refine .done fun _ _ _ row hrow => ?_
      cases hrow
    next found hfound =>
      refine .done fun v _ huv row hrow => ?_
      obtain rfl := Except.ok.inj hrow
      obtain ⟨stored', hstored', hkeep'⟩ := Later.clients huv stored hstored
      refine ⟨?_, stored', hstored', _, hkeep.trans hkeep'⟩
      simpa using List.find?_some hfound
  next =>
    refine .done fun _ _ _ row hrow => ?_
    cases hrow

/-- A token that was redeemed is for an account there is. -/
theorem consumeEnrollment_under (tokenHash clientId : String) (s : AccessDb) :
    (onIdentity (consumeEnrollment tokenHash clientId)).Under (access digests Calls)
      (fun redeemed t => ∀ accountId, redeemed = some accountId →
        (t.ledger.accounts accountId).isSome) s := by
  rw [consumeEnrollment, onIdentity_bind, onIdentity_exec]
  refine Under.exec_bind fun t ht _ => ⟨(Writes.consume tokenHash clientId).allows ht, ?_⟩
  dsimp only
  split
  · refine Under.read fun u hu _ v _ huv accountId hid => ?_
    obtain ⟨row, hrow, rfl⟩ := Option.map_eq_some_iff.mp hid
    exact Later.account_isSome huv (Sound.enrollments hu (tokenHash, row) hrow)
  · refine .done fun _ _ _ accountId hid => ?_
    cases hid

section enroll

variable {ip : String} {body : Except ApiError Json} {random : KeyBytes}
  (hcall : Calls (.enroll ip body random))

include hcall

/-- The client for the account of a redeemed token. -/
theorem withAccount_under (parsed : EnrollBody) {account : AccountRow} {s : AccessDb}
    (hs : Sound digests Calls s) (haccount : (s.ledger.accounts account.id).isSome) :
    (onIdentity (EnrollRequest.withAccount ⟨ip, body, mintClientKey digests.sha256 random⟩ parsed
      (some account))).Under (access digests Calls) (EnrolledAs digests body random) s := by
  unfold EnrollRequest.withAccount
  dsimp only
  -- a suspended account enrolls nobody
  split
  · refine .done fun _ _ _ h => ?_
    cases h
  rw [onIdentity_bind]
  refine Under.bind hs ((createClient_under fun t hst => ?_).weaken fun created t _ hcreated => ?_)
  · refine ⟨Later.account_isSome hst haccount, ⟨ip, body, random, hcall, rfl, rfl, rfl⟩, fun h => ?_⟩
    cases h
  · refine .done fun u _ htu => ?_
    cases created with
    | error reason =>
      intro h
      cases h
    -- between the insert and the answer the row may have changed, but not its key
    | ok row =>
      obtain ⟨hid, stored, hstored, time, hkeep⟩ := hcreated row rfl
      obtain ⟨stored', hstored', hkeep'⟩ := Later.clients htu stored hstored
      obtain ⟨hid', haccountId, hkeyId, hhash⟩ := (hkeep.trans hkeep').fields
      exact ⟨rfl, stored', hstored', ⟨hid', hkeyId, hhash⟩, hid'.trans hid.symm, haccountId⟩

/-- An admitted enrol request answers with what its body enrolled. -/
theorem admitted_under {s : AccessDb} (hs : Sound digests Calls s) :
    (onIdentity (EnrollRequest.admitted (sha256Hex digests.sha256)
      ⟨ip, body, mintClientKey digests.sha256 random⟩)).Under (access digests Calls)
        (EnrolledAs digests body random) s := by
  unfold EnrollRequest.admitted
  dsimp only
  split
  next err => exact .done fun _ _ _ _ => rfl
  split
  next =>
    refine .done fun _ _ _ h => ?_
    cases h
  next parsed _ =>
    rw [onIdentity_bind]
    refine Under.bind hs ((consumeEnrollment_under _ _ s).weaken fun redeemed t _ hredeemed => ?_)
    cases redeemed with
    -- the token was not there to be consumed
    | none =>
      refine .done fun _ _ _ h => ?_
      cases h
    | some accountId =>
      unfold EnrollRequest.redeemed
      rw [onIdentity_bind]
      refine Under.read_bind fun u hu htu => ?_
      -- an account is never removed, so the token's account is still there
      have hsome := Later.account_isSome htu (hredeemed accountId rfl)
      obtain ⟨account, haccount⟩ := Option.isSome_iff_exists.mp hsome
      have hkey : account.id = accountId := (Sound.accounts hu (accountId, account) haccount).key
      dsimp only
      rw [show u.identity.accounts accountId = some account from haccount]
      exact withAccount_under hcall parsed hu (hkey ▸ hsome)

/-- An enrollment answers a key of a client it made. -/
theorem enroll_under (s : AccessDb) :
    (onIdentity (handleEnroll (sha256Hex digests.sha256)
      ⟨ip, body, mintClientKey digests.sha256 random⟩)).Under (access digests Calls)
        (EnrolledAs digests body random) s := by
  rw [handleEnroll, onIdentity_bind]
  refine Under.read_bind fun t ht _ => ?_
  rw [onIdentity_bind]
  refine Under.bind ht ((onRateBuckets_under _ t).weaken fun rate u hu _ => ?_)
  split
  · exact admitted_under hcall hu
  · exact .done fun _ _ _ => trivial

end enroll

/-! ## Tickets -/

variable (digests Calls) in
/-- The ticket an answer carries is stored, for the client whose key was in the header. -/
def TicketedAs (authorization : Option String) (nowMs : Int) (random : Vector UInt8 32)
    (answer : Except ApiError CreateSttSessionResponse) (t : AccessDb) : Prop :=
  ∀ response, answer = .ok response →
    response.ticket = formatSttTicket (randomSecret random) ∧
    ∃ row, t.sttTickets (sha256Hex digests.sha256 response.ticket) = some row ∧
      ∃ client ∈ t.clients, MintedFor digests Calls authorization nowMs random client
        (sha256Hex digests.sha256 response.ticket, row)

/-- A ticket that was inserted is there. -/
theorem createSttTicket_under {args : CreateSttTicketArgs} {s : AccessDb}
    (h : ∀ t, Later Calls s t → SoundTicket digests Calls t (args.tokenHash, args.row)) :
    (createSttTicket args).Under (access digests Calls) (fun created t =>
      Later Calls s t ∧ (created = .ok () → ∃ row, t.sttTickets args.tokenHash = some row ∧
        KeepsTicket (args.tokenHash, args.row) (args.tokenHash, row))) s := by
  refine Under.exec_bind fun t ht hst => ?_
  have hwrites : Writes digests Calls t (t.insertTicket args.row).1 := .insertTicket (h t hst)
  refine ⟨hwrites.allows ht, ?_⟩
  refine .done fun u _ htu => ⟨hst.trans (hwrites.later.trans htu), fun hcreated => ?_⟩
  have hrow : (t.insertTicket args.row).1.sttTickets args.tokenHash = some args.row := by
    unfold AccessDb.insertTicket at hcreated ⊢
    split at hcreated
    next => cases hcreated
    next hfresh =>
      rw [if_neg hfresh]
      exact if_pos rfl
  exact Later.ticket htu hrow

/-- A ticket for the caller of a header. -/
theorem createSttSession_under {authorization : Option String} {nowMs : Int}
    {random : Vector UInt8 32} (hcall : Calls (.createSttSession authorization nowMs random))
    {s : AccessDb} (hs : Sound digests Calls s) :
    (handleCreateSttSession digests authorization nowMs (randomSecret random)).Under
      (access digests Calls) (TicketedAs digests Calls authorization nowMs random) s := by
  refine Under.bind hs ((requireCaller_under authorization s).weaken fun answer t ht hanswer => ?_)
  cases answer with
  | error err =>
    refine .done fun _ _ _ response h => ?_
    cases h
  | ok caller =>
    obtain ⟨hcaller, hpresents⟩ := hanswer.ok
    refine Under.bind ht ((createSttTicket_under fun u htu => ⟨?_, ?_⟩).weaken
      fun created u _ hcreated => ?_)
    -- the ticket inserted belongs to the caller
    · obtain ⟨client, hclient, hkeep⟩ := (hcaller.later htu).row
      obtain ⟨hid, haccountId, -, -⟩ := hkeep.fields
      exact ⟨authorization, nowMs, random, client, hclient, hcall, rfl, rfl, hid.symm,
        hcaller.account.trans haccountId.symm, hpresents.of_keeps hkeep⟩
    · intro time h
      cases h
    · obtain ⟨htu, hcreated⟩ := hcreated
      cases created with
      | error reason =>
        refine .done fun _ _ _ response h => ?_
        cases h
      -- and is still the one the answer names
      | ok _ =>
        refine .done fun v _ huv response h => ?_
        obtain rfl := Except.ok.inj h
        obtain ⟨row, hrow, hkeep⟩ := hcreated rfl
        obtain ⟨row', hrow', hkeep'⟩ := Later.ticket huv hrow
        obtain ⟨hclientId, haccountId, hexpires⟩ := (hkeep.trans hkeep').fields
        obtain ⟨client, hclient, hkeeps⟩ := (hcaller.later (Later.trans htu huv)).row
        obtain ⟨hid, haccount, -, -⟩ := hkeeps.fields
        exact ⟨rfl, row', hrow', client, hclient, hcall, rfl, hexpires, hclientId.trans hid.symm,
          haccountId.trans (hcaller.account.trans haccount.symm), hpresents.of_keeps hkeeps⟩

/-! ## Sessions -/

/-- What the credential of an upgrade is worth: the key of the client, or a ticket of it
    that is consumed now. -/
def AuthorizedBy (digests : Media.Digests) (client : ClientRow) (t : AccessDb) :
    SttUpgradeAuth → Prop
  | .clientKey bearer => PresentsKey digests (some ("Bearer " ++ bearer)) client
  | .sttTicket ticket => ∃ row, t.sttTickets (sha256Hex digests.sha256 ticket) = some row ∧
      row.consumedAt.isSome ∧ row.clientId = client.id ∧ row.accountId = client.accountId

variable (digests Calls) in
/-- A caller that was live after `s`, with the credential of an upgrade. -/
structure Admitted (s : AccessDb) (auth : SttUpgradeAuth) (caller : Caller) (t : AccessDb) :
    Prop where
  live : LiveCaller Calls s caller t
  authorized : AuthorizedBy digests caller.client t auth

/-- A caller admitted in one store stays admitted in every later one. -/
theorem Admitted.later {s t u : AccessDb} {auth : SttUpgradeAuth} {caller : Caller}
    (h : Admitted digests Calls s auth caller t) (hle : Later Calls t u) :
    Admitted digests Calls s auth caller u := by
  refine ⟨h.live.later hle, ?_⟩
  have hauthorized := h.authorized
  cases auth with
  | clientKey bearer => exact hauthorized
  | sttTicket ticket =>
    obtain ⟨row, hrow, hconsumed, hclient, haccount⟩ := hauthorized
    obtain ⟨row', hrow', hkeep⟩ := hle.ticket hrow
    obtain ⟨hclientId, haccountId, -⟩ := hkeep.fields
    exact ⟨row', hrow', hkeep.stays hconsumed ▸ hconsumed, hclientId.trans hclient,
      haccountId.trans haccount⟩

/-- A ticket that is redeemed is consumed from then on. -/
theorem consumeSttTicket_under (tokenHash : String) (s : AccessDb) :
    (consumeSttTicket tokenHash).Under (access digests Calls) (fun redeemed t =>
      Later Calls s t ∧ ∀ ticket, redeemed = some ticket →
        ∃ row, t.sttTickets tokenHash = some row ∧ row.consumedAt.isSome ∧
          ticket = ⟨row.accountId, row.clientId⟩) s := by
  refine Under.exec_bind fun t ht hst => ⟨(Writes.consumeTicket tokenHash).allows ht, ?_⟩
  split
  -- this call flipped the ticket, and reads it back afterwards
  next hchanged =>
    have hconsumed : ∃ row, (t.consumeTicket tokenHash).1.sttTickets tokenHash = some row ∧
        row.consumedAt.isSome := by
      unfold AccessDb.consumeTicket at hchanged ⊢
      split at hchanged
      next => cases hchanged
      next row hrow =>
        split at hchanged
        next hopen => exact ⟨_, by rw [if_pos hopen]; exact if_pos rfl, rfl⟩
        next => cases hchanged
    obtain ⟨row, hrow, hsome⟩ := hconsumed
    have hchange := (Writes.consumeTicket tokenHash : Writes digests Calls t _).later
    refine Under.read fun u _ htu v _ huv =>
      ⟨hst.trans (hchange.trans (Later.trans htu huv)), fun ticket hticket => ?_⟩
    obtain ⟨row₁, hrow₁, hkeep₁⟩ := Later.ticket htu hrow
    obtain ⟨row₂, hrow₂, hkeep₂⟩ := Later.ticket huv hrow₁
    obtain ⟨hclientId, haccountId, -⟩ := hkeep₂.fields
    have hsome₁ : row₁.consumedAt.isSome := hkeep₁.stays hsome ▸ hsome
    refine ⟨row₂, hrow₂, hkeep₂.stays hsome₁ ▸ hsome₁, ?_⟩
    rw [hrow₁] at hticket
    rw [← Option.some.inj hticket, haccountId, hclientId]
  -- nothing was flipped, so nobody is let in
  next =>
    have hchange := (Writes.consumeTicket tokenHash : Writes digests Calls t _).later
    refine .done fun u _ htu => ⟨hst.trans (hchange.trans htu), fun ticket hticket => ?_⟩
    cases hticket

/-- The caller of a ticket, from rows read after it was redeemed. -/
theorem ticketConsumed_under {auth : SttUpgradeAuth} {ticket : ConsumedTicket} {s t : AccessDb}
    (hauth : ∀ u, Later Calls t u → ∀ client : ClientRow, client.id = ticket.clientId →
      client.accountId = ticket.accountId → AuthorizedBy digests client u auth)
    (hst : Later Calls s t) :
    (ticketConsumed (some ticket)).Under (access digests Calls) (fun answer u =>
      ∀ caller, answer = .ok caller → Admitted digests Calls s auth caller u) t := by
  refine Under.read_bind fun u hu htu => ?_
  cases hfind : u.clients.find? (·.id == ticket.clientId) with
  | none =>
    refine .done fun _ _ _ caller h => ?_
    cases h
  | some client =>
    have hmem := List.mem_of_find?_eq_some hfind
    have hid : client.id = ticket.clientId := by simpa using List.find?_some hfind
    unfold ticketClient
    dsimp only
    -- the client of another account, as in the source
    split
    · refine .done fun _ _ _ caller h => ?_
      cases h
    next haccount =>
      -- a revoked client
      split
      · refine .done fun _ _ _ caller h => ?_
        cases h
      next hlive =>
        have hclient := LiveClient.of_mem hu (hst.trans htu) hmem
          (Option.not_isSome_iff_eq_none.mp hlive)
        have haccountId : client.accountId = ticket.accountId := not_not.mp haccount
        refine under_readAccount (haccountId ▸ (Sound.clients hu client hmem).account)
          fun v hv huv account hkey hopened hplan _ => ?_
        dsimp only
        -- a suspended account
        split
        · refine .done fun _ _ _ caller h => ?_
          cases h
        next hactive =>
          refine under_readPlan hplan fun w _ hvw plan hplanKey hslug husable => .done
            fun x _ hwx caller h => ?_
          obtain rfl := Except.ok.inj h
          have hux := Later.trans huv (Later.trans hvw hwx)
          exact ⟨⟨hclient.later hux, hkey.trans haccountId.symm, hkey.symm ▸ hopened,
            Option.not_isSome_iff_eq_none.mp hactive, hplanKey, hslug, husable⟩,
            hauth x (Later.trans htu hux) client hid haccountId⟩

/-- The caller of an upgrade. -/
theorem resolveSttCaller_under (auth : SttUpgradeAuth) {s : AccessDb} (hs : Sound digests Calls s) :
    (resolveSttCaller digests auth).Under (access digests Calls) (fun answer t =>
      ∀ caller, answer = .ok caller → Admitted digests Calls s auth caller t) s := by
  unfold resolveSttCaller
  split
  -- the key in the protocol header is resolved as one in the authorization
  next bearer =>
    generalize hheader : some ("Bearer " ++ bearer) = header
    refine (requireCaller_under header s).weaken fun answer t _ hanswer caller hcaller => ?_
    subst hcaller
    obtain ⟨hlive, hpresents⟩ := hanswer.ok
    refine ⟨hlive, ?_⟩
    rw [AuthorizedBy, hheader]
    exact hpresents
  -- the ticket is consumed before its client is looked up
  next ticket =>
    refine Under.bind hs ((consumeSttTicket_under _ s).weaken fun redeemed t _ hredeemed => ?_)
    obtain ⟨hst, hredeemed⟩ := hredeemed
    cases redeemed with
    | none =>
      refine .done fun _ _ _ caller h => ?_
      cases h
    | some redeemed =>
      obtain ⟨row, hrow, hconsumed, rfl⟩ := hredeemed redeemed rfl
      refine ticketConsumed_under (fun u htu client hid haccount => ?_) hst
      obtain ⟨row', hrow', hkeep⟩ := htu.ticket hrow
      obtain ⟨hclientId, haccountId, -⟩ := hkeep.fields
      exact ⟨row', hrow', hkeep.stays hconsumed ▸ hconsumed, hclientId.trans hid.symm,
        haccountId.trans haccount.symm⟩

variable (digests Calls) in
/-- What a session is handed over for: the credential of the upgrade, the caller it belongs
    to, and the claims of that caller, signed. -/
def HandedOver (s : AccessDb) (req : SttUpgrade) (answer : Except ApiError SignedHandoff)
    (t : AccessDb) : Prop :=
  ∀ handoff, answer = .ok handoff → ∃ auth caller secret,
    authFromSttUpgrade req.authorization req.protocol = some auth ∧
    Admitted digests Calls s auth caller t ∧ requireHandoffSecret req.aigToken = some secret ∧
    handoff = ⟨req.claimsFor caller, signSttHandoff digests secret (req.claimsFor caller),
      SttUpgrade.acceptProtocol auth⟩

section gates

variable {req : SttUpgrade} {auth : SttUpgradeAuth} {caller : Caller} {s : AccessDb}
  (hauth : authFromSttUpgrade req.authorization req.protocol = some auth)
include hauth

/-- A caller admitted is handed over with the claims of its store. -/
theorem handedOver_handOff {t : AccessDb} (h : Admitted digests Calls s auth caller t) :
    HandedOver digests Calls s req
      (req.handOff digests caller (SttUpgrade.acceptProtocol auth)) t := by
  intro handoff hhandoff
  unfold SttUpgrade.handOff at hhandoff
  split at hhandoff
  next => cases hhandoff
  next secret hsecret =>
    exact ⟨auth, caller, secret, hauth, h, hsecret, (Except.ok.inj hhandoff).symm⟩

/-- The gates read, and claim a rate bucket; a caller that passes them is handed over. -/
theorem gates_under (catalog : Catalog) {t : AccessDb}
    (h : Admitted digests Calls s auth caller t) :
    (req.gates digests catalog caller (SttUpgrade.acceptProtocol auth)).Under
      (access digests Calls) (HandedOver digests Calls s req) t := by
  have hrefused (err : ApiError) (u : AccessDb) : (Script.done (.error err)).Under
      (access digests Calls) (HandedOver digests Calls s req) u := by
    refine .done fun _ _ _ handoff hhandoff => ?_
    cases hhandoff
  unfold SttUpgrade.gates
  split
  · exact hrefused _ t
  split
  · exact hrefused _ t
  split
  · exact hrefused _ t
  refine Under.read_bind fun u _ htu => ?_
  split
  · exact hrefused _ u
  -- the rate limit
  refine Under.read_bind fun v hv huv => ?_
  refine Under.bind hv ((onRateBuckets_under _ v).weaken fun rate w _ hvw => ?_)
  split
  · refine Under.read_bind fun x _ hwx => ?_
    have hadmitted := h.later (Later.trans htu (Later.trans huv (Later.trans hvw hwx)))
    split
    · exact hrefused _ x
    · exact .done fun y _ hxy => handedOver_handOff hauth (hadmitted.later hxy)
  · exact hrefused _ w

end gates

/-- An upgrade is handed over for the caller of its credential. -/
theorem sttUpgrade_under (req : SttUpgrade) (catalog : Catalog) {s : AccessDb}
    (hs : Sound digests Calls s) :
    (req.handle digests catalog).Under (access digests Calls)
      (HandedOver digests Calls s req) s := by
  unfold SttUpgrade.handle
  split
  · refine .done fun _ _ _ handoff h => ?_
    cases h
  split
  · refine .done fun _ _ _ handoff h => ?_
    cases h
  split
  · refine .done fun _ _ _ handoff h => ?_
    cases h
  -- the bindings are there and a credential was sent
  next auth hauth =>
    refine Under.bind hs ((resolveSttCaller_under auth hs).weaken fun answer t _ hanswer => ?_)
    cases answer with
    | error err =>
      refine .done fun _ _ _ handoff h => ?_
      cases h
    | ok caller => exact gates_under hauth catalog (hanswer caller rfl)

/-! ## All calls -/

variable (digests Calls) in
/-- What an answer says about the store its call started at and the one it is given in. -/
def AccessAnswer.Says (call : AccessCall) (s : AccessDb) (answer : AccessAnswer) (t : AccessDb) :
    Prop :=
  match call with
  | .enroll _ body random =>
    ∃ enrolled, answer = .enrolled random enrolled ∧ EnrolledAs digests body random enrolled t
  | .revokeClient clientId => ∃ response, answer = .revoked response ∧
      response.clientId = clientId ∧ ∀ row ∈ s.clients, row.id = clientId →
        ∃ row' ∈ t.clients, row'.id = clientId ∧ row'.revokedAt.isSome
  | .authenticate authorization => ∃ result, answer = .authenticated authorization result ∧
      Authentication digests Calls authorization s result t
  | .createSttSession authorization nowMs random =>
    ∃ result, answer = .ticket authorization result ∧
      TicketedAs digests Calls authorization nowMs random result t
  | .sttUpgrade req => ∃ result, answer = .handedOff req result ∧
      HandedOver digests Calls s req result t
  | _ => answer = .other

/-- Every call keeps to the discipline, and answers as stated. -/
theorem script_under (catalog : Catalog) {call : AccessCall} (hcall : Calls call) {s : AccessDb}
    (hs : Sound digests Calls s) : (call.script digests catalog).Under (access digests Calls)
      (AccessAnswer.Says digests Calls call s) s := by
  -- most calls answer nothing that is claimed later
  have hother {α : Type} {p : Script AccessDb α} {post : α → AccessDb → Prop}
      (hp : p.Under (access digests Calls) post s) :
      (p.bind fun _ => .done AccessAnswer.other).Under (access digests Calls)
        (fun answer _ => answer = .other) s :=
    hp.map.weaken fun _ _ _ h => h.choose_spec.1
  have hwrite {f : AccessDb → AccessDb} (hf : ∀ t, Writes digests Calls t (f t)) :
      (Script.exec fun t => (f t, AccessAnswer.other)).Under (access digests Calls)
        (fun answer _ => answer = .other) s :=
    Under.exec fun t ht _ => ⟨(hf t).allows ht, fun _ _ _ => rfl⟩
  cases call with
  | upsertPlan raw => exact hother (upsertPlan_under raw s)
  | createAccount raw accountId grantId => exact hother (handleCreateAccount_under hcall s)
  | grantCredit raw accountId grantId =>
    exact hother (onMoney_under (handleGrantCredit_ledgerStep raw accountId grantId) s)
  | createEnrollment raw nowMs token =>
    exact hother (handleCreateEnrollment_under raw nowMs token s)
  | enroll ip body random => exact Under.map (enroll_under hcall s)
  | revokeClient clientId => exact Under.map (revokeClient_under hcall s)
  | authenticate authorization => exact Under.map (requireCaller_under authorization s)
  | createSttSession authorization nowMs random => exact Under.map (createSttSession_under hcall hs)
  | sttUpgrade req => exact Under.map (sttUpgrade_under req catalog hs)
  | recordUsage event createdAt =>
    exact hother (onMoney_under (recordUsage_ledgerStep event createdAt) s)
  | applyUsageAdjustment row => exact hother (onMoney_under (applyUsageAdjustment_ledgerStep row) s)
  | suspend accountId suspendedAt => exact hwrite fun t => .suspend accountId suspendedAt hcall
  | setPrices prices => exact hwrite fun t => .of_eq rfl rfl rfl rfl
  | claimBuckets buckets => exact hwrite fun t => .of_eq rfl rfl rfl rfl
  | clock now => exact hwrite fun t => .of_eq rfl rfl rfl rfl

/-! ## Runs -/

/-- The statements of one of the calls. -/
def IsCall (digests : Media.Digests) (catalog : Catalog) (Calls : AccessCall → Prop)
    (script : Script AccessDb AccessAnswer) : Prop :=
  ∃ call, Calls call ∧ script = call.script digests catalog

/-- Any number of the calls, from the database the migrations leave: `c` is where they are. -/
def AccessRun (digests : Media.Digests) (catalog : Catalog) (Calls : AccessCall → Prop)
    (now : Int) (c : Pool AccessDb AccessAnswer) : Prop :=
  Pool.Reach (IsCall digests catalog Calls) ⟨.migrated now, []⟩ c

section run

variable {catalog : Catalog} {now : Int} {c c' : Pool AccessDb AccessAnswer}

/-- Every call answers what its route says of some store it read. -/
theorem isCall_under {script : Script AccessDb AccessAnswer}
    (h : IsCall digests catalog Calls script) {s : AccessDb} (hs : Sound digests Calls s) :
    script.Under (access digests Calls) (fun answer t => ∃ call, Calls call ∧
      ∃ s, AccessAnswer.Says digests Calls call s answer t) s := by
  obtain ⟨call, hcall, rfl⟩ := h
  exact (script_under catalog hcall hs).weaken fun answer t _ hsays => ⟨call, hcall, s, hsays⟩

/-- In a run every thread is a call, and every answer one the calls give. -/
theorem AccessRun.under (h : AccessRun digests catalog Calls now c) :
    c.Under (access digests Calls) fun answer t => ∃ call, Calls call ∧
      ∃ s, AccessAnswer.Says digests Calls call s answer t :=
  (Pool.under_reach ⟨sound_migrated digests Calls now, fun _ hp => by cases hp⟩
    (fun _ hp _ hs => isCall_under hp hs) h).1

/-- Calls that are started one after the other and then take turns. -/
theorem accessRun_exec {calls : List AccessCall} (h : ∀ call ∈ calls, Calls call)
    (schedule : List Nat) : AccessRun digests catalog Calls now
      (Pool.exec ⟨.migrated now, calls.map fun call => call.script digests catalog⟩ schedule) := by
  refine (Pool.reach_start _ [] _ fun script hscript => ?_).trans (Pool.reach_exec _ _)
  obtain ⟨call, hcall, rfl⟩ := List.mem_map.mp hscript
  exact ⟨call, h call hcall, rfl⟩

/-- The tables are sound after any run. -/
theorem AccessRun.sound (h : AccessRun digests catalog Calls now c) : Sound digests Calls c.store :=
  h.under.1

/-- Each answer is one of a call that was made. -/
theorem AccessRun.answer (h : AccessRun digests catalog Calls now c) {answer : AccessAnswer}
    (hdone : .done answer ∈ c.threads) : ∃ call, Calls call ∧
      ∃ s, AccessAnswer.Says digests Calls call s answer c.store :=
  h.under.result hdone

/-- An enrol request that has answered is one of the calls. -/
theorem AccessRun.enrolled (h : AccessRun digests catalog Calls now c) {random : KeyBytes}
    {enrolled : EnrollAnswer} (hdone : .done (.enrolled random enrolled) ∈ c.threads) :
    ∃ ip body, Calls (.enroll ip body random) ∧
      EnrolledAs digests body random enrolled c.store := by
  obtain ⟨call, hcall, s, hsays⟩ := h.answer hdone
  cases call with
  | enroll ip body random' =>
    obtain ⟨enrolled', hanswer, henrolled⟩ := hsays
    cases hanswer
    exact ⟨ip, body, hcall, henrolled⟩
  | _ => simp [AccessAnswer.Says] at hsays

/-- An authentication that has answered was decided on a store of the run. -/
theorem AccessRun.authenticated (h : AccessRun digests catalog Calls now c)
    {authorization : Option String} {result : Except ApiError Caller}
    (hdone : .done (.authenticated authorization result) ∈ c.threads) :
    ∃ s, Authentication digests Calls authorization s result c.store := by
  obtain ⟨call, -, s, hsays⟩ := h.answer hdone
  cases call with
  | authenticate authorization' =>
    obtain ⟨result', hanswer, hresult⟩ := hsays
    cases hanswer
    exact ⟨s, hresult⟩
  | _ => simp [AccessAnswer.Says] at hsays

/-- A handoff that has answered belongs to an upgrade of the run. -/
theorem AccessRun.handedOff (h : AccessRun digests catalog Calls now c) {req : SttUpgrade}
    {result : Except ApiError SignedHandoff} (hdone : .done (.handedOff req result) ∈ c.threads) :
    Calls (.sttUpgrade req) ∧ ∃ s, HandedOver digests Calls s req result c.store := by
  obtain ⟨call, hcall, s, hsays⟩ := h.answer hdone
  cases call with
  | sttUpgrade req' =>
    obtain ⟨result', hanswer, hresult⟩ := hsays
    cases hanswer
    exact ⟨hcall, s, hresult⟩
  | _ => simp [AccessAnswer.Says] at hsays

/-- The tables move forward. -/
theorem AccessRun.later (h : AccessRun digests catalog Calls now c)
    (hreach : Pool.Reach (IsCall digests catalog Calls) c c') : Later Calls c.store c'.store :=
  (Pool.under_reach h.under (fun _ hp _ hs => isCall_under hp hs) hreach).2

/-- What a call that stands at its start in `c` answers in `c'`. -/
theorem AccessRun.result (h : AccessRun digests catalog Calls now c) {call : AccessCall}
    (hcall : Calls call) {n : Nat} (hstart : c.threads[n]? = some (call.script digests catalog))
    (hreach : Pool.Reach (IsCall digests catalog Calls) c c') {answer : AccessAnswer}
    (hdone : c'.threads[n]? = some (.done answer)) :
    AccessAnswer.Says digests Calls call c.store answer c'.store := by
  have htrivial : c.Under (access digests Calls) fun _ _ => True :=
    ⟨h.sound, fun p hp => (h.under.2 p hp).trivial⟩
  exact Pool.thread_result htrivial (fun _ hp _ hs => (isCall_under hp hs).trivial) hreach hstart
    (script_under catalog hcall h.sound) hdone

end run

end under

/-! ## Runs that are computed -/

/-- A thread that ended with an answer of this kind. -/
def answered (kind : AccessAnswer → Bool) : Script AccessDb AccessAnswer → Bool
  | .done answer => kind answer
  | .stmt _ _ => false

/-- A thread of the computed run that has answered in this way. -/
theorem exists_of_answered {c : Pool AccessDb AccessAnswer} {n : Nat} {kind : AccessAnswer → Bool}
    (h : (c.threads[n]?).any (answered kind) = true) :
    ∃ answer, c.threads[n]? = some (.done answer) ∧ kind answer = true := by
  cases hget : c.threads[n]? with
  | none => simp [hget] at h
  | some script =>
    rw [hget, Option.any_some] at h
    cases script with
    | done answer => exact ⟨answer, rfl, h⟩
    | stmt effect next => cases h

end ControlPlane
