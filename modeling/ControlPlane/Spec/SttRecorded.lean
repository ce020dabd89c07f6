import ControlPlane.Model.SttSession
import ControlPlane.Spec.RequestRows

/-!
# A live session leaves one row

Whatever ends a session, in whatever order and however often, and wherever a store call
fails, the ledger has one row of it at most, charged by the minute where its owners were
still entitled to it and free of charge otherwise.

`finalize` raises its flag before it writes. Until the object loses its memory the flag
stands for a row, also where a store call failed before there was one.

## Key results

- `meter_kept`: what every statement of `finalize` does to the rows of the session
- `meter_ensures`: a `finalize` that comes to its end leaves a row
- `session_recorded`: the rows of a session after any events
-/

namespace ControlPlane

open Script

/-! ## The minutes -/

/-- `ceil(min(elapsed, 15 min) / 60 s)`, one at least. -/
def billedMinutes (startedMs nowMs : Int) : Int :=
  max 1 ⌈((min (max 0 (nowMs - startedMs)) FLUX_MAX_SESSION_MS : Int) : Rat) / 60000⌉

/-- A session bills between one and fifteen minutes. -/
theorem billedMinutes_bounds (startedMs nowMs : Int) :
    1 ≤ billedMinutes startedMs nowMs ∧ billedMinutes startedMs nowMs ≤ 15 := by
  refine ⟨le_max_left _ _, max_le (by decide) ?_⟩
  rw [Int.ceil_le]
  have hcap : (min (max 0 (nowMs - startedMs)) FLUX_MAX_SESSION_MS : Int) ≤ 900000 :=
    min_le_right _ _
  have hcap : ((min (max 0 (nowMs - startedMs)) FLUX_MAX_SESSION_MS : Int) : Rat) ≤ 900000 := by
    exact_mod_cast hcap
  push_cast at hcap ⊢
  linarith

/-- The cap is taken in seconds, and the minutes from those. -/
theorem SessionMeta.units_eq (session : SessionMeta) (nowMs : Int) :
    session.units nowMs = billedMinutes session.startedMs nowMs := by
  -- the seconds are the clamped milliseconds, divided once
  have hsec : session.durationSec nowMs =
      ((min (max 0 (nowMs - session.startedMs)) FLUX_MAX_SESSION_MS : Int) : Rat) / 1000 := by
    have hpos : (0 : Rat) ≤ 1000 := by norm_num
    unfold durationSec
    push_cast
    rw [← min_div_div_right hpos, ← max_div_div_right hpos, zero_div]
  unfold units billableAudioMinutes billedMinutes
  rw [hsec]
  split
  · rename_i hzero
    have helapsed : (min (max 0 (nowMs - session.startedMs)) FLUX_MAX_SESSION_MS : Int) = 0 := by
      have hle : ((min (max 0 (nowMs - session.startedMs)) FLUX_MAX_SESSION_MS : Int) : Rat) ≤ 0 := by
        linarith
      have hle : (min (max 0 (nowMs - session.startedMs)) FLUX_MAX_SESSION_MS : Int) ≤ 0 := by
        exact_mod_cast hle
      exact le_antisymm hle (le_min (le_max_left _ _) (by decide))
    rw [helapsed]
    norm_num
  · rw [div_div]
    norm_num

/-! ## What a row says -/

/-- Client, account, plan and entitlement, as they were read. -/
def SttReads.Valid (catalog : Catalog) (session : SessionMeta) (reads : SttReads) : Prop :=
  ∃ client account planRow plan entry, reads.client = some client ∧ reads.account = some account ∧
    client.accountId = account.id ∧ client.accountId = session.accountId ∧
    client.revokedAt = none ∧ account.suspendedAt = none ∧ reads.planRow = some planRow ∧
    planFromRow planRow = .ok plan ∧ catalog.findModel session.modelId = some entry ∧
    entitlesTier plan entry.tier = true

/-- A row of the session that charges the minutes at the rate that was read if what was read
    is valid, and nothing if it is not. -/
structure SttReads.Recorded (catalog : Catalog) (session : SessionMeta) (reads : SttReads)
    (nowMs : Int) (row : UsageEventRow) : Prop where
  client : row.clientId = session.clientId
  request : row.requestId = session.requestId
  metered_iff : row.metered = true ↔ reads.Valid catalog session
  charged : row.metered = true → row.microUsd =
    billedMinutes session.startedMs nowMs *
      unitMicro (catalog.findModel session.modelId) reads.priceRow
  minutes : 1 ≤ billedMinutes session.startedMs nowMs ∧ billedMinutes session.startedMs nowMs ≤ 15
  free : row.metered = false →
    row.microUsd = 0 ∧ row.fromAllowanceMicroUsd = 0 ∧ row.fromCreditMicroUsd = 0

section recheck

variable {catalog : Catalog} {session : SessionMeta} {attempt : SttAttempt}

/-- The recheck passes with the stored plan and a model it entitles. -/
theorem recheckPlan_ok_iff {account : AccountRow} {planRow : Option PlanRow} {notCharged : String}
    {plan : Plan} : session.recheckPlan catalog account planRow notCharged = .ok plan ↔
      (∃ row, planRow = some row ∧ planFromRow row = .ok plan) ∧
        ∃ entry, catalog.findModel session.modelId = some entry ∧
          entitlesTier plan entry.tier = true := by
  unfold SessionMeta.recheckPlan
  cases planRow with
  | none => simp
  | some row =>
    dsimp only
    cases hplan : planFromRow row with
    | error reason => simp [hplan]
    | ok found =>
      dsimp only
      -- a model the catalog no longer knows entitles nobody
      have hentitled : (catalog.findModel session.modelId).any
          (fun entry => entitlesTier found entry.tier) = true ↔
          ∃ entry, catalog.findModel session.modelId = some entry ∧
            entitlesTier found entry.tier = true := by
        rw [Option.any_eq_true]
      constructor
      · intro h
        split at h
        · rename_i hany
          cases h
          exact ⟨⟨row, rfl, hplan⟩, hentitled.mp hany⟩
        · cases h
      · rintro ⟨⟨row', hrow, hplan'⟩, hentry⟩
        cases hrow
        rw [hplan] at hplan'
        cases hplan'
        rw [if_pos (hentitled.mpr hentry)]

/-- The checks pass exactly where everything is still valid. -/
theorem recheck_ok_iff {client : ClientRow} {account : AccountRow} {planRow : Option PlanRow}
    {plan : Plan} :
    session.recheck catalog attempt client account planRow = .ok plan ↔
      client.accountId = account.id ∧ client.accountId = session.accountId ∧
      client.revokedAt = none ∧ account.suspendedAt = none ∧
      (∃ row, planRow = some row ∧ planFromRow row = .ok plan) ∧
      ∃ entry, catalog.findModel session.modelId = some entry ∧
        entitlesTier plan entry.tier = true := by
  unfold SessionMeta.recheck
  dsimp only
  constructor
  · intro h
    split at h
    · cases h
    · -- the owner, the revocation, the suspension, in the order of the source
      rename_i howner
      push Not at howner
      split at h
      · cases h
      · rename_i hrevoked
        split at h
        · cases h
        · rename_i hsuspended
          rw [Option.not_isSome_iff_eq_none] at hrevoked hsuspended
          exact ⟨howner.1, howner.2, hrevoked, hsuspended, recheckPlan_ok_iff.mp h⟩
  · rintro ⟨haccount, hsession, hrevoked, hsuspended, hplan⟩
    rw [if_neg (by simp [← haccount, hsession]), if_neg (by simp [hrevoked]),
      if_neg (by simp [hsuspended])]
    exact recheckPlan_ok_iff.mpr hplan

/-- What was read is valid exactly where the checks pass. -/
theorem SttReads.valid_iff {reads : SttReads} {client : ClientRow} {account : AccountRow}
    (hclient : reads.client = some client) (haccount : reads.account = some account) :
    reads.Valid catalog session ↔
      ∃ plan, session.recheck catalog attempt client account reads.planRow = .ok plan := by
  constructor
  · rintro ⟨client', account', planRow, plan, entry, hclient', haccount', howner, hsession, hrevoked,
      hsuspended, hrow, hplan, hentry, htier⟩
    rw [hclient] at hclient'
    cases hclient'
    rw [haccount] at haccount'
    cases haccount'
    exact ⟨plan, recheck_ok_iff.mpr
      ⟨howner, hsession, hrevoked, hsuspended, ⟨planRow, hrow, hplan⟩, ⟨entry, hentry, htier⟩⟩⟩
  -- the recheck passed, so each of its checks did
  · rintro ⟨plan, hok⟩
    obtain ⟨howner, hsession, hrevoked, hsuspended, ⟨planRow, hrow, hplan⟩, ⟨entry, hentry, htier⟩⟩ :=
      recheck_ok_iff.mp hok
    exact ⟨client, account, planRow, plan, entry, hclient, haccount, howner, hsession, hrevoked,
      hsuspended, hrow, hplan, hentry, htier⟩

end recheck

/-! ## The rows of a session -/

/-- The ledger rows with a request id. -/
def SttDb.rowsOf (db : SttDb) (requestId : String) : List UsageEventRow :=
  db.ledger.usageEvents.filter fun row => row.requestId = requestId

/-! ## What `finalize` keeps -/

/-- What the reads of `finalize` find, each in the tables of its own moment. -/
def SttDb.reads (catalog : Catalog) (session : SessionMeta) (priced clients accounts plans : SttDb) :
    SttReads where
  priceRow := (catalog.findModel session.modelId).bind fun entry =>
    priced.modelPrices.getModelPrice entry.id
  client := clients.clients.find? (·.id = session.clientId)
  account := accounts.ledger.accounts session.accountId
  planRow := plans.ledger.plans session.planId

section meter

variable {catalog : Catalog} {session : SessionMeta} {attempt : SttAttempt}
  {minted : List String} {P : UsageEventRow → Prop}

/-- A row that is recorded without a charge. -/
theorem recorded_unmetered {reads : SttReads} (h : ¬ reads.Valid catalog session)
    (reason accountId : String) :
    reads.Recorded catalog session attempt.nowMs
      ((session.unmeteredEvent attempt reason accountId session.clientId).row attempt.createdAt) where
  client := rfl
  request := rfl
  metered_iff := ⟨fun hmetered => absurd hmetered Bool.false_ne_true, fun hvalid => absurd hvalid h⟩
  charged hmetered := absurd hmetered Bool.false_ne_true
  minutes := billedMinutes_bounds _ _
  free _ := ⟨rfl, rfl, rfl⟩

/-- A row that is charged. -/
theorem recorded_metered {reads : SttReads} (h : reads.Valid catalog session)
    (split : ChargeAllocation) (accountId : String) :
    reads.Recorded catalog session attempt.nowMs
      ((session.meteredEvent attempt (session.microUsd catalog attempt reads.priceRow) split accountId
        session.clientId).row attempt.createdAt) where
  client := rfl
  request := rfl
  metered_iff := ⟨fun _ => h, fun _ => rfl⟩
  charged _ := by
    show session.units attempt.nowMs * _ = _
    rw [session.units_eq]
  minutes := billedMinutes_bounds _ _
  free hmetered := absurd hmetered Bool.noConfusion

/-- Once the rows are read, every statement keeps one row at most. -/
theorem settle_kept {reads : SttReads} (hid : attempt.useId ∈ minted)
    (hclient : ∀ client ∈ reads.client, client.id = session.clientId)
    (hP : ∀ row, reads.Recorded catalog session attempt.nowMs row → P row)
    (hown : ∀ row, P row → row.clientId = session.clientId ∧ row.requestId = session.requestId) :
    Steps (fun a b => Kept minted session.requestId P a.ledger b.ledger)
      (session.settle catalog attempt reads) := by
  obtain ⟨priceRow, client, account, planRow⟩ := reads
  cases client with
  -- without a client or an account nothing is written
  | none => exact .done ()
  | some client =>
    cases account with
    | none => exact .done ()
    | some account =>
      have hclient : client.id = session.clientId := hclient client rfl
      -- whatever the checks say, the row names this session and its own id
      have hledger : ∀ {event : UsageEvent}, event.id = attempt.useId →
          event.requestId = session.requestId → event.clientId = session.clientId →
          P (event.row attempt.createdAt) →
          Steps (fun a b => Kept minted session.requestId P a.ledger b.ledger)
            (onLedger (recordUsage event attempt.createdAt)) := by
        intro event hevent hrequest hevclient hrow
        refine (recordUsage_kept (hevent ▸ hid) hrequest hrow ?_).zoom fun _ _ h => h
        rw [hevclient]
        exact hown
      show Steps _ (session.record catalog attempt priceRow client account planRow)
      unfold SessionMeta.record
      have hvalid : SttReads.Valid catalog session ⟨priceRow, some client, some account, planRow⟩ ↔
          ∃ plan, session.recheck catalog attempt client account planRow = .ok plan :=
        SttReads.valid_iff rfl rfl
      cases hcheck : session.recheck catalog attempt client account planRow with
      | error refusal =>
        have hinvalid : ¬ SttReads.Valid catalog session
            ⟨priceRow, some client, some account, planRow⟩ := by
          rw [hvalid, hcheck]
          rintro ⟨plan, hplan⟩
          cases hplan
        rw [hclient]
        exact hledger rfl rfl rfl (hP _ (recorded_unmetered hinvalid _ _))
      | ok plan =>
        have hvalid : SttReads.Valid catalog session
            ⟨priceRow, some client, some account, planRow⟩ := hvalid.mpr ⟨plan, hcheck⟩
        rw [hclient]
        refine Steps.bind ?_ fun period => hledger rfl rfl rfl (hP _ (recorded_metered hvalid _ _))
        exact (Steps.read fun db => .refl db).zoom fun _ _ h => h

/-- Every statement of `finalize` keeps one row at most, and the row it writes says what its
    reads found. -/
theorem meter_kept {M : SttDb → Prop} (hid : attempt.useId ∈ minted)
    (hP : ∀ priced clients accounts plans row, M priced → M clients → M accounts → M plans →
      (SttDb.reads catalog session priced clients accounts plans).Recorded catalog session
        attempt.nowMs row → P row)
    (hown : ∀ row, P row → row.clientId = session.clientId ∧ row.requestId = session.requestId) :
    Reading M (Steps fun a b => Kept minted session.requestId P a.ledger b.ledger)
      (session.meter catalog attempt) := by
  -- with no entry no rate is read, and any moment will do for it
  have hreads : ∀ priceRow, (∀ clients, M clients → ∃ priced, M priced ∧
      priceRow = (catalog.findModel session.modelId).bind fun entry =>
        priced.modelPrices.getModelPrice entry.id) →
      Reading M (Steps fun a b => Kept minted session.requestId P a.ledger b.ledger)
        (do
          let client ← getClient session.clientId
          let account ← onLedger (getAccount session.accountId)
          let planRow ← onLedger (getPlan session.planId)
          session.settle catalog attempt ⟨priceRow, client, account, planRow⟩) := by
    intro priceRow hpriced
    refine .read fun clients hclients => .read fun accounts haccounts => .read fun plans hplans => ?_
    obtain ⟨priced, hM, rfl⟩ := hpriced clients hclients
    have hfound : ∀ client, (SttDb.reads catalog session priced clients accounts plans).client =
        some client → client.id = session.clientId := by
      intro client hclient
      simpa using List.find?_some hclient
    exact .act (settle_kept hid hfound (fun row => hP _ _ _ _ row hM hclients haccounts hplans) hown)
  unfold SessionMeta.meter
  cases hentry : catalog.findModel session.modelId with
  | none =>
    refine hreads none fun clients hclients => ⟨clients, hclients, ?_⟩
    rw [hentry]
    rfl
  | some entry =>
    refine .read fun priced hpriced => hreads _ fun _ _ => ⟨priced, hpriced, ?_⟩
    rw [hentry]
    rfl

/-- Both owners of the row are there. -/
def SttDb.HasOwners (session : SessionMeta) (db : SttDb) : Prop :=
  (∃ client, db.clients.find? (·.id = session.clientId) = some client) ∧
    ∃ account, db.ledger.accounts session.accountId = some account

/-- With both owners there, `finalize` writes the row, whatever else it reads. -/
theorem settle_ensures {J : SttDb → Prop} {reads : SttReads} (hid : attempt.useId ∈ minted)
    (hclient : ∃ client, reads.client = some client) (haccount : ∃ account, reads.account = some account) :
    Ensures J (fun db => db.ledger.mine minted session.requestId ≠ [])
      (session.settle catalog attempt reads) := by
  obtain ⟨priceRow, client, account, planRow⟩ := reads
  obtain ⟨client, rfl⟩ := hclient
  obtain ⟨account, rfl⟩ := haccount
  -- either way one row is recorded, under the ids of the session
  have hledger : ∀ {event : UsageEvent}, event.id = attempt.useId →
      event.requestId = session.requestId →
      Ensures J (fun db => db.ledger.mine minted session.requestId ≠ [])
        (onLedger (recordUsage event attempt.createdAt)) := by
    intro event hevent hrequest
    have hrest : ∀ insert : Bool, Steps (fun a b : Db => a.mine minted session.requestId ≠ [] →
        b.mine minted session.requestId ≠ [])
        (if insert then advanceCounters event else pure ()) := by
      intro insert
      split
      · exact (advanceCounters_mine event).mono fun a b hab => by rw [hab]; exact id
      · exact .done ()
    exact .write (fun db _ => insertEvent_mine (hevent ▸ hid) hrequest db.ledger) fun db =>
      (hrest _).zoom fun _ _ h => h
  show Ensures J _ (session.record catalog attempt priceRow client account planRow)
  unfold SessionMeta.record
  cases hcheck : session.recheck catalog attempt client account planRow with
  | error refusal => exact hledger rfl rfl
  | ok plan => exact .read fun db _ => hledger rfl rfl

/-- A metering that is not cut leaves the session a row. -/
theorem meter_ensures (hid : attempt.useId ∈ minted) :
    Ensures (SttDb.HasOwners session) (fun db => db.ledger.mine minted session.requestId ≠ [])
      (session.meter catalog attempt) := by
  -- client, account and plan are read before anything is written
  have hreads : ∀ priceRow, Ensures (SttDb.HasOwners session)
      (fun db => db.ledger.mine minted session.requestId ≠ [])
      (do
        let client ← getClient session.clientId
        let account ← onLedger (getAccount session.accountId)
        let planRow ← onLedger (getPlan session.planId)
        session.settle catalog attempt ⟨priceRow, client, account, planRow⟩) := by
    intro priceRow
    exact .read fun clients hclients => .read fun accounts haccounts => .read fun plans _ =>
      settle_ensures hid hclients.1 haccounts.2
  unfold SessionMeta.meter
  cases hentry : catalog.findModel session.modelId with
  | none => exact hreads none
  | some entry => exact .read fun priced _ => hreads _

end meter

/-! ## Runs of events -/

/-- The id an event mints. -/
def SttEvent.minted : SttEvent → List String
  | .ending _ attempt => [attempt.useId]
  | _ => []

/-- The ids minted for the rows of a session. -/
def mintedIn (events : List SttEvent) : List String := events.flatMap SttEvent.minted

/-- An effect that leaves the rows of the session alone. -/
def LeavesMine (minted : List String) (requestId : String) (effect : SttDb → SttDb) : Prop :=
  ∀ db, (effect db).ledger.mine minted requestId = db.ledger.mine minted requestId

/-- The request id was minted for the session, and the row ids are: what others write is of
    other requests. -/
def SttEvent.OthersLeave (minted : List String) (requestId : String) : SttEvent → Prop
  | .ending _ attempt => ∀ effect ∈ attempt.others, LeavesMine minted requestId effect
  | .other effect => LeavesMine minted requestId effect
  | .restart => True
  | .lands _ => True

/-- A row that says what the reads of the attempt found, each at some moment of it. -/
def SttAttempt.Recorded (catalog : Catalog) (session : SessionMeta) (attempt : SttAttempt)
    (db : SttDb) (row : UsageEventRow) : Prop :=
  ∃ priced ∈ moments attempt.others db, ∃ clients ∈ moments attempt.others db,
    ∃ accounts ∈ moments attempt.others db, ∃ plans ∈ moments attempt.others db,
      (SttDb.reads catalog session priced clients accounts plans).Recorded catalog session
        attempt.nowMs row

/-- What holds after every event: one row at most, also where a statement that was sent takes
    effect. -/
structure SttState.Good (session : SessionMeta) (minted : List String) (P : UsageEventRow → Prop)
    (s : SttState) : Prop where
  stored : s.stored = session.stored
  rows : OneRow P (s.db.ledger.mine minted session.requestId)
  sent : ∀ effect ∈ s.inFlight, ∀ db, Kept minted session.requestId P db.ledger (effect db).ledger

namespace SttState

section step

variable {catalog : Catalog} {session : SessionMeta} {minted : List String}
  {P : UsageEventRow → Prop} {s : SttState} {attempt : SttAttempt}

/-- Finalizing keeps a session good, and the rows it had. -/
theorem finalize_good (hmeta : ∀ nowMs, session.stored.readMeta nowMs = some session)
    (hown : ∀ row, P row → row.clientId = session.clientId ∧ row.requestId = session.requestId)
    (hid : attempt.useId ∈ minted)
    (hothers : ∀ effect ∈ attempt.others, LeavesMine minted session.requestId effect)
    (hP : ∀ row, attempt.Recorded catalog session s.db row → P row) (h : s.Good session minted P) :
    (s.finalize catalog attempt).Good session minted P ∧
      Kept minted session.requestId P s.db.ledger (s.finalize catalog attempt).db.ledger := by
  unfold finalize
  split
  -- finalized before: nothing is done
  · exact ⟨h, .refl _⟩
  · rw [h.stored, hmeta]
    dsimp only
    -- the metering keeps the rows whatever the others do in between
    have hread : Reading (· ∈ moments attempt.others s.db)
        (Steps fun a b => Kept minted session.requestId P a.ledger b.ledger)
        (session.meter catalog attempt) := meter_kept hid
      (fun priced clients accounts plans row hpriced hclients haccounts hplans hrow =>
        hP row ⟨priced, hpriced, clients, hclients, accounts, haccounts, plans, hplans, hrow⟩) hown
    obtain ⟨hkept, hsent⟩ := hread.among (fun db => .refl db.ledger) (fun _ _ _ => .trans)
      (fun effect heffect db => .of_mine (hothers effect heffect db)) attempt.fails (fun _ hm => hm)
    refine ⟨⟨rfl, (hkept h.rows).1, ?_⟩, hkept⟩
    intro effect heffect
    rcases List.mem_append.mp heffect with heffect | heffect
    · exact h.sent effect heffect
    · exact hsent effect heffect

/-- The handler's own doing is in memory. -/
theorem dropUpstream_eq (s : SttState) (ending : SttEnding) :
    (s.dropUpstream ending).stored = s.stored ∧ (s.dropUpstream ending).db = s.db ∧
      (s.dropUpstream ending).inFlight = s.inFlight ∧
      (s.dropUpstream ending).memory.finalized = s.memory.finalized := by
  cases ending <;> exact ⟨rfl, rfl, rfl, rfl⟩

/-- So does dropping the upstream socket. -/
theorem Good.dropUpstream (h : s.Good session minted P) (ending : SttEnding) :
    (s.dropUpstream ending).Good session minted P := by
  obtain ⟨hstored, hdb, hsent, -⟩ := dropUpstream_eq s ending
  exact ⟨hstored.trans h.stored, hdb ▸ h.rows, hsent ▸ h.sent⟩

/-- One event keeps it, and the row that is there. -/
theorem step_good (hmeta : ∀ nowMs, session.stored.readMeta nowMs = some session)
    (hown : ∀ row, P row → row.clientId = session.clientId ∧ row.requestId = session.requestId)
    {event : SttEvent} (hid : ∀ id ∈ event.minted, id ∈ minted)
    (hothers : event.OthersLeave minted session.requestId)
    (hP : ∀ ending attempt, event = .ending ending attempt →
      ∀ row, attempt.Recorded catalog session s.db row → P row) (h : s.Good session minted P) :
    (s.step catalog event).Good session minted P ∧
      Kept minted session.requestId P s.db.ledger (s.step catalog event).db.ledger := by
  cases event with
  | ending ending attempt =>
    rw [show s.step catalog (.ending ending attempt) = s.handle catalog ending attempt from rfl]
    unfold handle
    split
    · have hdb := (dropUpstream_eq s ending).2.1
      have hdone := finalize_good hmeta hown (hid _ List.mem_cons_self) hothers
        (hdb ▸ hP ending attempt rfl) (h.dropUpstream ending)
      rw [hdb] at hdone
      exact hdone
    · exact ⟨h, .refl _⟩
  -- memory is lost, and with it nothing that is stored or on its way
  | restart => exact ⟨⟨h.stored, h.rows, h.sent⟩, .refl _⟩
  | lands i =>
    unfold step
    dsimp only
    cases hi : s.inFlight[i]? with
    | none => exact ⟨h, .refl _⟩
    -- a call that was sent lands, and is no longer on its way
    | some effect =>
      have hkept := h.sent effect (List.mem_of_getElem? hi) s.db
      refine ⟨⟨h.stored, (hkept h.rows).1, fun g hg => ?_⟩, hkept⟩
      exact h.sent g (List.mem_of_mem_eraseIdx hg)
  | other effect =>
    have hkept : Kept minted session.requestId P s.db.ledger (effect s.db).ledger :=
      .of_mine (hothers s.db)
    exact ⟨⟨h.stored, (hkept h.rows).1, h.sent⟩, hkept⟩

end step

/-! ## The session after any events -/

/-- The flag is up, and no row is there. -/
def Lost (requestId : String) (s : SttState) : Prop :=
  s.memory.finalized = true ∧ s.db.rowsOf requestId = []

/-- Events after events. -/
theorem run_append (catalog : Catalog) (s : SttState) (pre post : List SttEvent) :
    s.run catalog (pre ++ post) = (s.run catalog pre).run catalog post := List.foldl_append

section run

variable {catalog : Catalog} {session : SessionMeta} {db : SttDb} {events : List SttEvent}

/-- The session once some events have passed. -/
abbrev after (catalog : Catalog) (session : SessionMeta) (db : SttDb) (events : List SttEvent) :
    SttState := (opened session db).run catalog events

/-- A row that one of the events recorded. -/
def RecordedIn (catalog : Catalog) (session : SessionMeta) (db : SttDb) (events : List SttEvent)
    (row : UsageEventRow) : Prop :=
  ∃ pre ending attempt post, events = pre ++ .ending ending attempt :: post ∧
    attempt.Recorded catalog session (after catalog session db pre).db row

/-- A recorded row bears the session's ids. -/
theorem RecordedIn.own {row : UsageEventRow} (h : RecordedIn catalog session db events row) :
    row.clientId = session.clientId ∧ row.requestId = session.requestId := by
  obtain ⟨_, _, _, _, _, _, _, _, _, _, _, _, _, hrow⟩ := h
  exact ⟨hrow.client, hrow.request⟩

section

variable (hmeta : ∀ nowMs, session.stored.readMeta nowMs = some session)
  (hothers : ∀ event ∈ events, event.OthersLeave (mintedIn events) session.requestId)

include hmeta hothers

/-- One event more keeps the session good, and the rows it had. -/
theorem after_step {pre post : List SttEvent} {event : SttEvent}
    (hevents : events = pre ++ event :: post)
    (h : (after catalog session db pre).Good session (mintedIn events)
      (RecordedIn catalog session db events)) :
    (after catalog session db (pre ++ [event])).Good session (mintedIn events)
        (RecordedIn catalog session db events) ∧
      Kept (mintedIn events) session.requestId (RecordedIn catalog session db events)
        (after catalog session db pre).db.ledger
        (after catalog session db (pre ++ [event])).db.ledger := by
  have hmem : event ∈ events := by simp [hevents]
  have hid : ∀ id ∈ event.minted, id ∈ mintedIn events := fun id hid =>
    List.mem_flatMap.mpr ⟨event, hmem, hid⟩
  unfold after
  rw [run_append]
  refine step_good hmeta (fun row => RecordedIn.own) hid (hothers event hmem) ?_ h
  rintro ending attempt rfl row hrow
  exact ⟨pre, ending, attempt, post, hevents, hrow⟩

/-- So the session is good after any events. -/
theorem after_good (hnew : db.ledger.mine (mintedIn events) session.requestId = [])
    (pre post : List SttEvent) (hevents : events = pre ++ post) :
    (after catalog session db pre).Good session (mintedIn events)
      (RecordedIn catalog session db events) := by
  induction pre using List.reverseRecOn generalizing post with
  | nil => exact ⟨rfl, .inl hnew, fun effect heffect => absurd heffect List.not_mem_nil⟩
  | append_singleton pre event ih =>
    rw [List.append_assoc] at hevents
    exact (after_step hmeta hothers hevents (ih _ hevents)).1

/-- A row that is there stays there. -/
theorem after_kept (hnew : db.ledger.mine (mintedIn events) session.requestId = [])
    (pre post : List SttEvent) (hevents : events = pre ++ post) :
    Kept (mintedIn events) session.requestId (RecordedIn catalog session db events)
      (after catalog session db pre).db.ledger (after catalog session db events).db.ledger := by
  induction post generalizing pre with
  | nil =>
    rw [hevents, List.append_nil]
    exact .refl _
  | cons event post ih =>
    have hgood : (after catalog session db pre).Good session (mintedIn events)
        (RecordedIn catalog session db events) := after_good hmeta hothers hnew pre _ hevents
    -- one event more, and then the rest
    have hstep := (after_step hmeta hothers hevents hgood).2
    rw [List.append_cons] at hevents
    exact hstep.trans (ih _ hevents)

end

end run

/-- The rows of the session are those with its request id. -/
theorem Good.rowsOf_eq {session : SessionMeta} {minted : List String} {P : UsageEventRow → Prop}
    {s : SttState} (h : s.Good session minted P)
    (hown : ∀ row, P row → row.clientId = session.clientId ∧ row.requestId = session.requestId) :
    s.db.rowsOf session.requestId = s.db.ledger.mine minted session.requestId := by
  -- the session's own rows are all that bear its request
  have hfilter : s.db.rowsOf session.requestId =
      (s.db.ledger.mine minted session.requestId).filter (·.requestId = session.requestId) := by
    unfold SttDb.rowsOf Db.mine
    rw [List.filter_filter]
    refine List.filter_congr fun row _ => ?_
    by_cases hrow : row.requestId = session.requestId <;> simp [hrow]
  rw [hfilter]
  rcases h.rows with hnone | ⟨row, hrow, hP⟩
  · rw [hnone]
    rfl
  · rw [hrow]
    exact List.filter_cons_of_pos (by simpa using (hown row hP).2)

/-- A `finalize` that comes to its end with the flag down leaves a row. -/
theorem handle_writes {catalog : Catalog} {session : SessionMeta} {minted : List String}
    {P : UsageEventRow → Prop} {s : SttState} {attempt : SttAttempt} {ending : SttEnding}
    (hmeta : ∀ nowMs, session.stored.readMeta nowMs = some session)
    (hid : attempt.useId ∈ minted)
    (hothers : ∀ effect ∈ attempt.others, LeavesMine minted session.requestId effect)
    (hworks : attempt.fails = none) (hends : ending.ends s.memory = true)
    (howners : s.db.HasOwners session)
    (hstay : ∀ effect ∈ attempt.others, ∀ db : SttDb, db.HasOwners session →
      (effect db).HasOwners session)
    (h : s.Good session minted P) (hdown : s.memory.finalized = false) :
    (s.handle catalog ending attempt).db.ledger.mine minted session.requestId ≠ [] := by
  obtain ⟨-, hdb, -, hflag⟩ := dropUpstream_eq s ending
  rw [handle, if_pos hends, finalize, if_neg (by rw [hflag, hdown]; exact Bool.false_ne_true),
    (h.dropUpstream ending).stored, hmeta]
  dsimp only
  rw [hworks, hdb]
  refine (meter_ensures hid).among hstay (fun effect heffect db hne => ?_) howners
  rwa [hothers effect heffect db]

/-- With the flag up nothing is written. -/
theorem handle_finalized {catalog : Catalog} {s : SttState} (h : s.memory.finalized = true)
    (ending : SttEnding) (attempt : SttAttempt) : (s.handle catalog ending attempt).db = s.db := by
  obtain ⟨-, hdb, -, hflag⟩ := dropUpstream_eq s ending
  unfold handle
  split
  · rw [finalize, if_pos (hflag.trans h), hdb]
  · rfl

section ending

variable {catalog : Catalog} {session : SessionMeta} {db : SttDb} {events : List SttEvent}
  (hmeta : ∀ nowMs, session.stored.readMeta nowMs = some session)
  (hothers : ∀ event ∈ events, event.OthersLeave (mintedIn events) session.requestId)
  (hnew : db.ledger.mine (mintedIn events) session.requestId = [])

include hmeta hothers hnew

/-- At each point of a run the rows of the session are those its requests may have written. -/
theorem after_rows {pre post : List SttEvent} (hevents : events = pre ++ post) :
    (after catalog session db pre).db.rowsOf session.requestId =
      (after catalog session db pre).db.ledger.mine (mintedIn events) session.requestId :=
  (after_good hmeta hothers hnew pre post hevents).rowsOf_eq fun _ => RecordedIn.own

variable {pre post : List SttEvent} {ending : SttEnding} {attempt : SttAttempt}
  (hevents : events = pre ++ .ending ending attempt :: post) (hworks : attempt.fails = none)
  (hends : ending.ends (after catalog session db pre).memory = true)
  (howners : (after catalog session db pre).db.HasOwners session)
  (hstay : ∀ effect ∈ attempt.others, ∀ db : SttDb, db.HasOwners session →
    (effect db).HasOwners session)

include hevents hworks hends howners hstay

/-- An ending event that the store works for leaves a row, unless the session is lost: the flag
    was up before, with the row there, or this event writes it. -/
theorem ending_writes (hfound : ¬ Lost session.requestId (after catalog session db pre)) :
    (after catalog session db (pre ++ [.ending ending attempt])).db.ledger.mine (mintedIn events)
      session.requestId ≠ [] := by
  have hmem : SttEvent.ending ending attempt ∈ events := by simp [hevents]
  have hbefore : (after catalog session db pre).Good session (mintedIn events)
      (RecordedIn catalog session db events) := after_good hmeta hothers hnew pre _ hevents
  rw [after, run_append]
  cases hflag : (after catalog session db pre).memory.finalized with
  -- an ending before this one has written the row
  | true =>
    have hne : (after catalog session db pre).db.rowsOf session.requestId ≠ [] :=
      fun hnone => hfound ⟨hflag, hnone⟩
    rw [after_rows hmeta hothers hnew hevents] at hne
    intro hnone
    apply hne
    rw [← hnone]
    exact congrArg (fun db : SttDb => db.ledger.mine (mintedIn events) session.requestId)
      (handle_finalized hflag ending attempt).symm
  -- this ending writes it
  | false =>
    have hid : attempt.useId ∈ mintedIn events :=
      List.mem_flatMap.mpr ⟨_, hmem, List.mem_cons_self⟩
    exact handle_writes hmeta hid (hothers _ hmem) hworks hends howners hstay hbefore hflag

/-- After such an event there is one row exactly where the session was not lost, and then
    there is one at the end of the run. -/
theorem ending_recorded :
    (((after catalog session db (pre ++ [.ending ending attempt])).db.rowsOf
        session.requestId).length = 1 ↔ ¬ Lost session.requestId (after catalog session db pre)) ∧
      (¬ Lost session.requestId (after catalog session db pre) →
        ((after catalog session db events).db.rowsOf session.requestId).length = 1) := by
  have hnext : events = (pre ++ [.ending ending attempt]) ++ post := by
    rw [hevents, List.append_cons]
  have hwritten := ending_writes hmeta hothers hnew hevents hworks hends howners hstay
  have hgood : ∀ pre post, events = pre ++ post → (after catalog session db pre).Good session
      (mintedIn events) (RecordedIn catalog session db events) := after_good hmeta hothers hnew
  have hthen := hgood _ post hnext
  have hend := hgood events [] (List.append_nil _).symm
  rw [after_rows hmeta hothers hnew hnext,
    after_rows hmeta hothers hnew (List.append_nil events).symm, hthen.rows.length_iff,
    hend.rows.length_iff]
  refine ⟨⟨fun hne hlost => hne ?_, hwritten⟩, fun hfound => ?_⟩
  · -- a lost session has no row before the event, and the event writes none
    have hnone := hlost.2
    rw [after_rows hmeta hothers hnew hevents] at hnone
    rw [← hnone, after, run_append]
    exact congrArg (fun db : SttDb => db.ledger.mine (mintedIn events) session.requestId)
      (handle_finalized hlost.1 ending attempt)
  · obtain ⟨-, hstays⟩ := after_kept hmeta hothers hnew _ post hnext hthen.rows
    exact fun hnone => hwritten hfound ((hstays (hwritten hfound)).symm.trans hnone)

end ending

end SttState

/-- Any session, whatever ends it, in whatever order and however often, wherever a store call
    fails, and whatever others write to other requests: it has one row at most, and the row
    says what its own `finalize` found. An ending event whose store calls all succeed, with
    both owners there, finds or leaves the row exactly where it does not find the flag up and
    no row; and then the row is there ever after. -/
theorem session_recorded (catalog : Catalog) (handoff : SttHandoff) (startedMs : Int)
    (gatewayLogId : Option String) (db : SttDb) (events : List SttEvent)
    (hnew : db.ledger.mine (mintedIn events) handoff.requestId = [])
    (hothers : ∀ event ∈ events, event.OthersLeave (mintedIn events) handoff.requestId) :
    let session := handoff.meta startedMs gatewayLogId
    let after := SttState.after catalog session db
    ((after events).db.rowsOf handoff.requestId).length ≤ 1 ∧
      (∀ row ∈ (after events).db.rowsOf handoff.requestId,
        SttState.RecordedIn catalog session db events row) ∧
      ∀ pre ending attempt post, events = pre ++ .ending ending attempt :: post →
        attempt.fails = none → ending.ends (after pre).memory = true →
        (after pre).db.HasOwners session →
        (∀ effect ∈ attempt.others, ∀ db : SttDb, db.HasOwners session →
          (effect db).HasOwners session) →
        (((after (pre ++ [.ending ending attempt])).db.rowsOf handoff.requestId).length = 1 ↔
            ¬ SttState.Lost handoff.requestId (after pre)) ∧
          (¬ SttState.Lost handoff.requestId (after pre) →
            ((after events).db.rowsOf handoff.requestId).length = 1) := by
  intro session after
  have hmeta : ∀ nowMs, session.stored.readMeta nowMs = some session :=
    fun nowMs => handoff.readMeta_meta startedMs gatewayLogId nowMs
  -- the invariant at the end of the run gives both facts about its rows
  have hend : (after events).Good session (mintedIn events)
      (SttState.RecordedIn catalog session db events) :=
    SttState.after_good hmeta hothers hnew events [] (List.append_nil _).symm
  have hrows : (after events).db.rowsOf handoff.requestId =
      (after events).db.ledger.mine (mintedIn events) handoff.requestId :=
    SttState.after_rows hmeta hothers hnew (List.append_nil events).symm
  refine ⟨?_, fun row hrow => ?_, ?_⟩
  · exact hrows ▸ hend.rows.length_le
  · exact hend.rows.of_mem (hrows ▸ hrow)
  · intro pre ending attempt post hevents hworks hends howners hstay
    exact SttState.ending_recorded hmeta hothers hnew hevents hworks hends howners hstay

/-! ## A session that is lost -/

/-- The catalog entry of the live microphone. -/
def fluxEntry : CatalogEntry where
  id := FLUX_STT_MODEL
  upstream := FLUX_STT_MODEL
  binding := false
  api := .chat
  modality := .voice
  billing := .workersAi
  tier := .standard
  maxOutputTokens := none
  unitPrice := some ⟨7700, .audioMinute⟩

/-- One account with one client. -/
def micDb : SttDb where
  ledger := { Db.empty with
    plans := fun id =>
      if id = "dev" then some ⟨"dev", "Dev", 0, 0, 20, 8192, "standard,premium"⟩ else none
    accounts := fun id =>
      if id = "acct_1" then some ⟨"acct_1", "dev", none, none, 1000000, 0⟩ else none }
  clients := [⟨"client_1", "acct_1", "key_1", "hash", none, none, 0, none⟩]
  modelPrices := .empty

/-- A client of the dev plan opens a microphone. -/
def micHandoff : SttHandoff where
  accountId := "acct_1"
  clientId := "client_1"
  planId := "dev"
  requestId := "req_1"
  named := by decide

/-- The end of a session of a minute and a half. -/
def micAttempt (fails : Option Nat) : SttAttempt where
  nowMs := 90000
  periodKey := "2026-08"
  useId := "use_1"
  createdAt := 0
  fails := fails
  others := []

/-- The sample session is recorded by one row when its client closes. -/
theorem session_recorded_mic :
    ((SttState.after [fluxEntry] (micHandoff.meta 0 none) micDb
      [.ending .close (micAttempt none)]).db.rowsOf "req_1").length = 1 := by
  have hnew : micDb.ledger.mine (mintedIn [.ending .close (micAttempt none)]) micHandoff.requestId =
      [] := rfl
  -- nobody else writes
  have hothers : ∀ event ∈ [SttEvent.ending .close (micAttempt none)],
      event.OthersLeave (mintedIn [.ending .close (micAttempt none)]) micHandoff.requestId := by
    intro event hevent
    obtain rfl := List.mem_singleton.mp hevent
    exact fun effect heffect => absurd heffect List.not_mem_nil
  have howners : micDb.HasOwners (micHandoff.meta 0 none) := ⟨⟨_, rfl⟩, ⟨_, rfl⟩⟩
  obtain ⟨-, -, hworks⟩ := session_recorded [fluxEntry] micHandoff 0 none micDb _ hnew hothers
  refine (hworks [] .close (micAttempt none) [] rfl rfl rfl howners
    (fun effect heffect => absurd heffect List.not_mem_nil)).2 fun hlost => ?_
  exact Bool.false_ne_true hlost.1

example : ((SttState.after [fluxEntry] (micHandoff.meta 0 none) micDb
    [.ending .close (micAttempt none)]).db.rowsOf "req_1").map
      (fun row => (row.metered, row.microUsd)) = [(true, 15400)] := by decide +kernel

/-- The first call of the store fails when the client closes, and nothing fails when the
    socket errs after that: there is no row. -/
theorem session_unrecorded : ¬ ∀ (events : List SttEvent),
    micDb.ledger.mine (mintedIn events) micHandoff.requestId = [] →
    (∀ event ∈ events, event.OthersLeave (mintedIn events) micHandoff.requestId) →
    ∀ pre ending attempt post, events = pre ++ .ending ending attempt :: post →
      attempt.fails = none →
      ending.ends (SttState.after [fluxEntry] (micHandoff.meta 0 none) micDb pre).memory = true →
      (SttState.after [fluxEntry] (micHandoff.meta 0 none) micDb pre).db.HasOwners
        (micHandoff.meta 0 none) →
      (∀ effect ∈ attempt.others, ∀ db : SttDb, db.HasOwners (micHandoff.meta 0 none) →
        (effect db).HasOwners (micHandoff.meta 0 none)) →
      ((SttState.after [fluxEntry] (micHandoff.meta 0 none) micDb events).db.rowsOf
        micHandoff.requestId).length = 1 := by
  intro hclaim
  -- neither of the two endings lets others write
  have hleave : ∀ event ∈ [SttEvent.ending .close (micAttempt (some 0)),
      .ending .error (micAttempt none)], event.OthersLeave (mintedIn
        [.ending .close (micAttempt (some 0)), .ending .error (micAttempt none)])
        micHandoff.requestId := by
    intro event hevent
    rcases List.mem_cons.mp hevent with rfl | hevent
    · exact fun effect heffect => absurd heffect List.not_mem_nil
    · obtain rfl := List.mem_singleton.mp hevent
      exact fun effect heffect => absurd heffect List.not_mem_nil
  have hone := hclaim _ rfl hleave [.ending .close (micAttempt (some 0))] .error (micAttempt none) []
    rfl rfl rfl ⟨⟨_, rfl⟩, ⟨_, rfl⟩⟩ (fun effect heffect => absurd heffect List.not_mem_nil)
  exact absurd hone (by decide +kernel)

end ControlPlane
