import ControlPlane.ForStd.Rely
import ControlPlane.ForStd.Rows
import ControlPlane.Model.Routes.AdminClients
import ControlPlane.Model.Routes.SttStream

/-!
# The tables callers are resolved from, under concurrent requests

Requests of every kind run at once, each any number of times, one statement at a time.
Whatever they do, the tables refer to rows that exist, plans are usable, and no row loses
what a request may have read in it: a client keeps its key and account, an account its
plan, and what is revoked or consumed stays so.

The calls that may be made are a parameter, so that what is in a table is traced back to
the calls that put it there.

## Key results

- `Writes.sound` / `Writes.later`: a statement that writes sound rows keeps the tables sound
-/

namespace ControlPlane

open Rows

/-! ## The calls -/

/-- What is asked of the plane, with what the request brings and the platform mints. -/
inductive AccessCall where
  | upsertPlan (raw : Json)
  | createAccount (raw : Json) (accountId grantId : String)
  | grantCredit (raw : Json) (accountId grantId : String)
  | createEnrollment (raw : Json) (nowMs : Int) (token : String)
  | enroll (ip : String) (body : Except ApiError Json) (random : KeyBytes)
  | revokeClient (clientId : String)
  | authenticate (authorization : Option String)
  | createSttSession (authorization : Option String) (nowMs : Int) (random : Vector UInt8 32)
  | sttUpgrade (req : SttUpgrade)
  | recordUsage (event : UsageEvent) (createdAt : Int)
  | applyUsageAdjustment (row : UsageAdjustmentRow)
  /-- No route suspends an account, or lets it in again: the operator's own SQL does. -/
  | suspend (accountId : String) (suspendedAt : Option Int)
  | setPrices (prices : ModelPrices)
  /-- Other routes claim rate buckets. -/
  | claimBuckets (buckets : RateBuckets)
  | clock (now : Int)

/-- What a call answered, with the part of its request the answer is about. -/
inductive AccessAnswer where
  | enrolled (random : KeyBytes) (answer : EnrollAnswer)
  | revoked (response : RevokeClientResponse)
  | authenticated (authorization : Option String) (answer : Except ApiError Caller)
  | ticket (authorization : Option String) (answer : Except ApiError CreateSttSessionResponse)
  | handedOff (req : SttUpgrade) (answer : Except ApiError SignedHandoff)
  | other

/-- The account row with its suspension set or lifted. -/
def AccountRow.suspend (suspendedAt : Option Int) (row : AccountRow) : AccountRow :=
  { row with suspendedAt := suspendedAt }

/-- The statements of a call. -/
def AccessCall.script (digests : Media.Digests) (catalog : Catalog) :
    AccessCall → Script AccessDb AccessAnswer
  | .upsertPlan raw => (handleUpsertPlan raw).bind fun _ => .done .other
  | .createAccount raw accountId grantId =>
    (onMoney (handleCreateAccount raw accountId grantId)).bind fun _ => .done .other
  | .grantCredit raw accountId grantId =>
    (onMoney (handleGrantCredit raw accountId grantId)).bind fun _ => .done .other
  | .createEnrollment raw nowMs token =>
    (handleCreateEnrollment digests.sha256 raw nowMs token).bind fun _ => .done .other
  | .enroll ip body random =>
    (onIdentity (handleEnroll (sha256Hex digests.sha256)
      ⟨ip, body, mintClientKey digests.sha256 random⟩)).bind fun answer =>
        .done (.enrolled random answer)
  | .revokeClient clientId =>
    (handleRevokeClient clientId).bind fun response => .done (.revoked response)
  | .authenticate authorization =>
    (requireCaller digests.sha256 authorization).bind fun answer =>
      .done (.authenticated authorization answer)
  | .createSttSession authorization nowMs random =>
    (handleCreateSttSession digests authorization nowMs (randomSecret random)).bind fun answer =>
      .done (.ticket authorization answer)
  | .sttUpgrade req =>
    (req.handle digests catalog).bind fun answer => .done (.handedOff req answer)
  | .recordUsage event createdAt =>
    (onMoney (ControlPlane.recordUsage event createdAt)).bind fun _ => .done .other
  | .applyUsageAdjustment row =>
    (onMoney (ControlPlane.applyUsageAdjustment row)).bind fun _ => .done .other
  | .suspend accountId suspendedAt => Script.exec fun db =>
    ({ db with ledger := db.ledger.updateAccount accountId (.suspend suspendedAt) }, .other)
  | .setPrices prices => Script.exec fun db => ({ db with modelPrices := prices }, .other)
  | .claimBuckets buckets => Script.exec fun db => ({ db with rateBuckets := buckets }, .other)
  | .clock now => Script.exec fun db => ({ db with now := now }, .other)

/-- The plan the migrations seed. -/
def developmentPlan : PlanRow where
  id := "dev"
  name := "Development (provisional)"
  signupCreditMicroUsd := 1000000
  monthlyIncludedMicroUsd := 0
  requestsPerMinute := 20
  maxOutputTokens := 8192
  allowedTiers := "standard,premium"

/-- The database after the migrations. -/
def AccessDb.migrated (now : Int) : AccessDb where
  ledger := { Db.empty with plans := fun id => if id = "dev" then some developmentPlan else none }
  enrollments _ := none
  clients := []
  sttTickets _ := none
  modelPrices := .empty
  rateBuckets _ := none
  now := now

section discipline

variable (digests : Media.Digests) (Calls : AccessCall → Prop)

/-! ## What is in the tables -/

/-- A plan under its own id, a slug, that the request path accepts. -/
structure UsablePlan (p : String × PlanRow) : Prop where
  key : p.2.id = p.1
  slug : isPlanId p.1 = true
  usable : ∃ plan, planFromRow p.2 = .ok plan

/-- Some call opens the account. -/
def Opens (accountId : String) : Prop := ∃ raw grantId, Calls (.createAccount raw accountId grantId)

/-- Some call suspends the account. -/
def Suspends (accountId : String) : Prop := ∃ time, Calls (.suspend accountId (some time))

/-- An account under its own id, on a plan there is. -/
structure SoundAccount (db : AccessDb) (p : String × AccountRow) : Prop where
  key : p.2.id = p.1
  plan : (db.ledger.plans p.2.planId).isSome
  opened : Opens Calls p.1
  suspended : p.2.suspendedAt.isSome → Suspends Calls p.1

/-- A token for an account there is. -/
def SoundEnrollment (db : AccessDb) (p : String × EnrollmentRow) : Prop :=
  (db.ledger.accounts p.2.accountId).isSome

/-- The client an enrollment issued. -/
def IssuedBy (random : KeyBytes) (row : ClientRow) : Prop :=
  row.id = newId "cli" random.clientId ∧ row.keyId = newKeyId random.keyId ∧
    row.secretHash = sha256Hex digests.sha256 (randomSecret random.secret)

/-- A client of an account there is, issued by an enrollment. -/
structure SoundClient (db : AccessDb) (row : ClientRow) : Prop where
  account : (db.ledger.accounts row.accountId).isSome
  issued : ∃ ip body random, Calls (.enroll ip body random) ∧ IssuedBy digests random row
  revoked : row.revokedAt.isSome → Calls (.revokeClient row.id)

/-- The key of the client is in the header: its id, and a secret of its hash. -/
def PresentsKey (authorization : Option String) (client : ClientRow) : Prop :=
  ∃ key, (bearerFromRequest authorization).bind parseClientKey = some key ∧
    client.keyId = key.keyId ∧ client.secretHash = sha256Hex digests.sha256 key.secret

/-- A ticket that was minted for the client whose key was in the header. -/
structure MintedFor (authorization : Option String) (nowMs : Int) (random : Vector UInt8 32)
    (client : ClientRow) (p : String × SttTicketRow) : Prop where
  call : Calls (.createSttSession authorization nowMs random)
  hash : p.1 = sha256Hex digests.sha256 (formatSttTicket (randomSecret random))
  expires : p.2.expiresAt = toISOString (nowMs + STT_TICKET_TTL_SEC * 1000)
  clientId : p.2.clientId = client.id
  accountId : p.2.accountId = client.accountId
  presents : PresentsKey digests authorization client

/-- A ticket of a client there is, consumed in time if it is. -/
structure SoundTicket (db : AccessDb) (p : String × SttTicketRow) : Prop where
  minted : ∃ authorization nowMs random, ∃ client ∈ db.clients,
    MintedFor digests Calls authorization nowMs random client p
  inTime : ∀ time, p.2.consumedAt = some time → sqlDatetime time < sqlDatetime p.2.expiresAt

/-- Ids and key ids are unique. -/
def Distinct (clients : List ClientRow) : Prop :=
  clients.Pairwise fun a b => a.id ≠ b.id ∧ a.keyId ≠ b.keyId

/-- What holds of the tables. -/
structure Sound (db : AccessDb) : Prop where
  plans : ∀ p ∈ entries db.ledger.plans, UsablePlan p
  accounts : ∀ p ∈ entries db.ledger.accounts, SoundAccount Calls db p
  enrollments : ∀ p ∈ entries db.enrollments, SoundEnrollment db p
  clients : ∀ row ∈ {row | row ∈ db.clients}, SoundClient digests Calls db row
  distinct : Distinct db.clients
  tickets : ∀ p ∈ entries db.sttTickets, SoundTicket digests Calls db p

/-! ## How rows change -/

/-- A plan is kept, or replaced by a usable one. -/
def KeepsPlan (a b : String × PlanRow) : Prop := b.1 = a.1 ∧ (b = a ∨ UsablePlan b)

/-- An account keeps its plan, and is suspended by an operator only. -/
structure KeepsAccount (a b : String × AccountRow) : Prop where
  key : b.1 = a.1
  id : b.2.id = a.2.id
  plan : b.2.planId = a.2.planId
  suspended : b.2.suspendedAt.isSome → a.2.suspendedAt.isSome ∨ Suspends Calls a.1

/-- A token keeps the account it was minted for. -/
def KeepsEnrollment (a b : String × EnrollmentRow) : Prop :=
  b.1 = a.1 ∧ b.2.accountId = a.2.accountId

/-- Only the revocation of a client changes, and only once. -/
structure KeepsClient (a b : ClientRow) : Prop where
  rest : b = { a with revokedAt := b.revokedAt }
  stays : a.revokedAt.isSome → b.revokedAt = a.revokedAt
  revoked : b.revokedAt.isSome → a.revokedAt.isSome ∨ Calls (.revokeClient a.id)

/-- A ticket is consumed only once, and in time. -/
structure KeepsTicket (a b : String × SttTicketRow) : Prop where
  key : b.1 = a.1
  rest : b.2 = { a.2 with consumedAt := b.2.consumedAt }
  stays : a.2.consumedAt.isSome → b.2.consumedAt = a.2.consumedAt
  inTime : ∀ time, b.2.consumedAt = some time →
    a.2.consumedAt = some time ∨ sqlDatetime time < sqlDatetime a.2.expiresAt

variable {Calls} {digests}

/-- A plan that is not written is kept. -/
theorem KeepsPlan.refl (p : String × PlanRow) : KeepsPlan p p := ⟨rfl, .inl rfl⟩

/-- Two writes of a plan are one. -/
theorem KeepsPlan.trans {a b c : String × PlanRow} (hab : KeepsPlan a b) (hbc : KeepsPlan b c) :
    KeepsPlan a c := by
  refine ⟨hbc.1.trans hab.1, ?_⟩
  -- the last write decides, unless it was none
  rcases hbc.2 with rfl | h
  · exact hab.2
  · exact .inr h

/-- An account that is not written is kept. -/
theorem KeepsAccount.refl (p : String × AccountRow) : KeepsAccount Calls p p :=
  ⟨rfl, rfl, rfl, .inl⟩

/-- Two writes of an account are one. -/
theorem KeepsAccount.trans {a b c : String × AccountRow} (hab : KeepsAccount Calls a b)
    (hbc : KeepsAccount Calls b c) : KeepsAccount Calls a c where
  key := hbc.key.trans hab.key
  id := hbc.id.trans hab.id
  plan := hbc.plan.trans hab.plan
  suspended h := by
    rcases hbc.suspended h with h | h
    · exact hab.suspended h
    · exact .inr (hab.key ▸ h)

/-- A token that is not written is kept. -/
theorem KeepsEnrollment.refl (p : String × EnrollmentRow) : KeepsEnrollment p p := ⟨rfl, rfl⟩

/-- Two writes of a token are one. -/
theorem KeepsEnrollment.trans {a b c : String × EnrollmentRow} (hab : KeepsEnrollment a b)
    (hbc : KeepsEnrollment b c) : KeepsEnrollment a c :=
  ⟨hbc.1.trans hab.1, hbc.2.trans hab.2⟩

/-- A client that is not written is kept. -/
theorem KeepsClient.refl (row : ClientRow) : KeepsClient Calls row row := ⟨rfl, fun _ => rfl, .inl⟩

/-- What identifies a client stays. -/
theorem KeepsClient.fields {a b : ClientRow} (h : KeepsClient Calls a b) :
    b.id = a.id ∧ b.accountId = a.accountId ∧ b.keyId = a.keyId ∧ b.secretHash = a.secretHash := by
  rw [h.rest]
  exact ⟨rfl, rfl, rfl, rfl⟩

/-- Two writes of a client are one. -/
theorem KeepsClient.trans {a b c : ClientRow} (hab : KeepsClient Calls a b)
    (hbc : KeepsClient Calls b c) : KeepsClient Calls a c where
  rest := by
    have h := hbc.rest
    rw [hab.rest] at h
    exact h
  stays h := by
    -- revoked by the first write, the time stays through the second
    have hb := hab.stays h
    rw [hbc.stays (hb ▸ h), hb]
  revoked h := by
    -- revoked by the second write, or by the first, under the same id
    rcases hbc.revoked h with h | h
    · exact hab.revoked h
    · exact .inr (hab.fields.1 ▸ h)

/-- A ticket that is not written is kept. -/
theorem KeepsTicket.refl (p : String × SttTicketRow) : KeepsTicket p p :=
  ⟨rfl, rfl, fun _ => rfl, fun _ => .inl⟩

/-- A ticket keeps its client, its account and its expiry. -/
theorem KeepsTicket.fields {a b : String × SttTicketRow} (h : KeepsTicket a b) :
    b.2.clientId = a.2.clientId ∧ b.2.accountId = a.2.accountId ∧
      b.2.expiresAt = a.2.expiresAt := by
  rw [h.rest]
  exact ⟨rfl, rfl, rfl⟩

/-- Two writes of a ticket are one. -/
theorem KeepsTicket.trans {a b c : String × SttTicketRow} (hab : KeepsTicket a b)
    (hbc : KeepsTicket b c) : KeepsTicket a c where
  key := hbc.key.trans hab.key
  rest := by
    have h := hbc.rest
    rw [hab.rest] at h
    exact h
  stays h := by
    -- consumed by the first write, the time stays through the second
    have hb := hab.stays h
    rw [hbc.stays (hb ▸ h), hb]
  inTime time h := by
    -- consumed by the second write, and the expiry has not changed since
    rcases hbc.inTime time h with h | h
    · exact hab.inTime time h
    · exact .inr (hab.fields.2.2 ▸ h)

/-- A key that opens a client's row opens the row it becomes. -/
theorem PresentsKey.of_keeps {authorization : Option String} {a b : ClientRow}
    (h : PresentsKey digests authorization a) (hkeep : KeepsClient Calls a b) :
    PresentsKey digests authorization b := by
  obtain ⟨key, hkey, hid, hhash⟩ := h
  exact ⟨key, hkey, hkeep.fields.2.2.1.trans hid, hkeep.fields.2.2.2.trans hhash⟩

/-! ## The order -/

variable (Calls) in
/-- No row is lost, and none changes otherwise than above. -/
structure Later (db db' : AccessDb) : Prop where
  plans : Kept KeepsPlan (entries db.ledger.plans) (entries db'.ledger.plans)
  accounts : Kept (KeepsAccount Calls) (entries db.ledger.accounts) (entries db'.ledger.accounts)
  enrollments : Kept KeepsEnrollment (entries db.enrollments) (entries db'.enrollments)
  clients : Kept (KeepsClient Calls) {row | row ∈ db.clients} {row | row ∈ db'.clients}
  tickets : Kept KeepsTicket (entries db.sttTickets) (entries db'.sttTickets)

namespace Later

/-- No statement is needed between a state and itself. -/
theorem refl (db : AccessDb) : Later Calls db db where
  plans := .refl KeepsPlan.refl _
  accounts := .refl KeepsAccount.refl _
  enrollments := .refl KeepsEnrollment.refl _
  clients := .refl KeepsClient.refl _
  tickets := .refl KeepsTicket.refl _

/-- The order composes. -/
theorem trans {a b c : AccessDb} (hab : Later Calls a b) (hbc : Later Calls b c) :
    Later Calls a c where
  plans := hab.plans.trans hbc.plans KeepsPlan.trans
  accounts := hab.accounts.trans hbc.accounts KeepsAccount.trans
  enrollments := hab.enrollments.trans hbc.enrollments KeepsEnrollment.trans
  clients := hab.clients.trans hbc.clients KeepsClient.trans
  tickets := hab.tickets.trans hbc.tickets KeepsTicket.trans

variable {db db' : AccessDb} (h : Later Calls db db')
include h

/-- A plan that is there is there later. -/
theorem plan_isSome {id : String} (hid : (db.ledger.plans id).isSome) :
    (db'.ledger.plans id).isSome := by
  obtain ⟨row, hrow⟩ := Option.isSome_iff_exists.mp hid
  obtain ⟨⟨id', row'⟩, hmem, hkeep⟩ := h.plans (id, row) hrow
  obtain rfl : id' = id := hkeep.1
  exact Option.isSome_iff_exists.mpr ⟨row', hmem⟩

/-- An account that is there is there later. -/
theorem account_isSome {id : String} (hid : (db.ledger.accounts id).isSome) :
    (db'.ledger.accounts id).isSome := by
  obtain ⟨row, hrow⟩ := Option.isSome_iff_exists.mp hid
  obtain ⟨⟨id', row'⟩, hmem, hkeep⟩ := h.accounts (id, row) hrow
  obtain rfl : id' = id := hkeep.key
  exact Option.isSome_iff_exists.mpr ⟨row', hmem⟩

/-- A ticket that is there is there later, and keeps what it was issued for. -/
theorem ticket {hash : String} {row : SttTicketRow} (hrow : db.sttTickets hash = some row) :
    ∃ row', db'.sttTickets hash = some row' ∧ KeepsTicket (hash, row) (hash, row') := by
  obtain ⟨⟨hash', row'⟩, hmem, hkeep⟩ := h.tickets (hash, row) hrow
  obtain rfl : hash' = hash := hkeep.key
  exact ⟨row', hmem, hkeep⟩

/-- An account that is sound stays so. -/
theorem soundAccount {p : String × AccountRow} (hp : SoundAccount Calls db p) :
    SoundAccount Calls db' p :=
  ⟨hp.key, h.plan_isSome hp.plan, hp.opened, hp.suspended⟩

/-- A token that is sound stays so. -/
theorem soundEnrollment {p : String × EnrollmentRow} (hp : SoundEnrollment db p) :
    SoundEnrollment db' p :=
  h.account_isSome hp

/-- A client that is sound stays so. -/
theorem soundClient {row : ClientRow} (hrow : SoundClient digests Calls db row) :
    SoundClient digests Calls db' row :=
  ⟨h.account_isSome hrow.account, hrow.issued, hrow.revoked⟩

/-- A ticket that is sound stays so. -/
theorem soundTicket {p : String × SttTicketRow} (hp : SoundTicket digests Calls db p) :
    SoundTicket digests Calls db' p := by
  obtain ⟨authorization, nowMs, random, client, hclient, hminted⟩ := hp.minted
  obtain ⟨client', hclient', hkeep⟩ := h.clients client hclient
  exact ⟨⟨authorization, nowMs, random, client', hclient', { hminted with
    clientId := hminted.clientId.trans hkeep.fields.1.symm
    accountId := hminted.accountId.trans hkeep.fields.2.1.symm
    presents := hminted.presents.of_keeps hkeep }⟩, hp.inTime⟩

end Later

/-! ## What a statement may write -/

variable (digests) (Calls) in
/-- The tables before and after a statement that carries their rows along and writes sound
    ones. -/
structure Writes (db db' : AccessDb) : Prop where
  plans : Grows KeepsPlan UsablePlan (entries db.ledger.plans) (entries db'.ledger.plans)
  accounts : Grows (KeepsAccount Calls) (SoundAccount Calls db) (entries db.ledger.accounts)
    (entries db'.ledger.accounts)
  enrollments : Grows KeepsEnrollment (SoundEnrollment db) (entries db.enrollments)
    (entries db'.enrollments)
  clients : Grows (KeepsClient Calls) (SoundClient digests Calls db) {row | row ∈ db.clients}
    {row | row ∈ db'.clients}
  distinct : Distinct db.clients → Distinct db'.clients
  tickets : Grows KeepsTicket (SoundTicket digests Calls db) (entries db.sttTickets)
    (entries db'.sttTickets)

namespace Writes

variable {db db' : AccessDb}

/-- A statement may write nothing. -/
theorem refl (db : AccessDb) : Writes digests Calls db db where
  plans := .refl KeepsPlan.refl _
  accounts := .refl KeepsAccount.refl _
  enrollments := .refl KeepsEnrollment.refl _
  clients := .refl KeepsClient.refl _
  distinct := id
  tickets := .refl KeepsTicket.refl _

/-- What a statement writes comes later. -/
theorem later (h : Writes digests Calls db db') : Later Calls db db' :=
  ⟨h.plans.kept, h.accounts.kept, h.enrollments.kept, h.clients.kept, h.tickets.kept⟩

/-- Each table stays sound: the rows it had refer to rows that are still there. -/
theorem sound (h : Writes digests Calls db db') (hdb : Sound digests Calls db) :
    Sound digests Calls db' where
  plans := h.plans.forall_mem hdb.plans
    (fun old row hkeep hold => by
      rcases hkeep.2 with rfl | h
      · exact hold
      · exact h)
    fun _ hnew => hnew
  accounts := h.accounts.forall_mem hdb.accounts
    -- an account stays on its plan, and no plan is lost
    (fun old row hkeep hold => by
      refine ⟨hkeep.id.trans (hold.key.trans hkeep.key.symm), ?_, hkeep.key ▸ hold.opened,
        fun hsuspended => ?_⟩
      · rw [hkeep.plan]
        exact h.later.plan_isSome hold.plan
      · rw [hkeep.key]
        exact (hkeep.suspended hsuspended).elim hold.suspended id)
    fun _ hnew => h.later.soundAccount hnew
  enrollments := h.enrollments.forall_mem hdb.enrollments
    -- a token stays with its account, and no account is lost
    (fun old row hkeep hold => by
      rw [SoundEnrollment, hkeep.2]
      exact h.later.account_isSome hold)
    fun _ hnew => h.later.soundEnrollment hnew
  clients := h.clients.forall_mem hdb.clients
    -- a client keeps what was issued, and a revocation has its call
    (fun old row hkeep hold => by
      obtain ⟨hid, haccount, hkey, hhash⟩ := hkeep.fields
      obtain ⟨ip, body, random, hcall, hissued⟩ := hold.issued
      refine ⟨?_, ⟨ip, body, random, hcall, ?_⟩, fun hrevoked => ?_⟩
      · rw [haccount]
        exact h.later.account_isSome hold.account
      · rw [IssuedBy, hid, hkey, hhash]
        exact hissued
      · rw [hid]
        exact (hkeep.revoked hrevoked).elim hold.revoked id)
    fun _ hnew => h.later.soundClient hnew
  distinct := h.distinct hdb.distinct
  tickets := h.tickets.forall_mem hdb.tickets
    -- a ticket keeps what it was minted for, and was consumed in time
    (fun old row hkeep hold => by
      have hsound := h.later.soundTicket hold
      obtain ⟨hclientId, haccountId, hexpires⟩ := hkeep.fields
      obtain ⟨authorization, nowMs, random, client, hclient, hminted⟩ := hsound.minted
      refine ⟨⟨authorization, nowMs, random, client, hclient, { hminted with
        hash := hkeep.key.trans hminted.hash
        expires := hexpires.trans hminted.expires
        clientId := hclientId.trans hminted.clientId
        accountId := haccountId.trans hminted.accountId }⟩, fun time htime => ?_⟩
      rw [hexpires]
      exact (hkeep.inTime time htime).elim (hold.inTime time) id)
    fun _ hnew => h.later.soundTicket hnew

end Writes

variable (digests) (Calls) in
/-- The tables stay sound, and only move forward. -/
def access : Discipline AccessDb := ⟨Sound digests Calls, Later Calls, Later.refl, Later.trans⟩

/-- A statement that may write so keeps a sound state sound. -/
theorem Writes.allows {db db' : AccessDb} (h : Writes digests Calls db db')
    (hdb : Sound digests Calls db) : (access digests Calls).Allows db db' :=
  ⟨h.sound hdb, h.later⟩

end discipline

/-- The database the migrations leave is sound. -/
theorem sound_migrated (digests : Media.Digests) (Calls : AccessCall → Prop) (now : Int) :
    Sound digests Calls (.migrated now) where
  plans p hp := by
    simp only [entries, AccessDb.migrated, Set.mem_ofPred_eq] at hp
    split at hp
    -- the one plan of the migrations
    next hid =>
      constructor
      · rw [← Option.some.inj hp, hid]
        rfl
      · rw [hid]
        decide
      · rw [← Option.some.inj hp]
        exact ⟨_, rfl⟩
    next => cases hp
  accounts p hp := by cases hp
  enrollments p hp := by cases hp
  clients row hrow := by cases hrow
  distinct := List.Pairwise.nil
  tickets p hp := by cases hp

end ControlPlane
