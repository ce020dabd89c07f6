import ControlPlane.Spec.PlaneSystem

/-!
# Who writes the ledger

Of all the statements of the plane one inserts a usage row, the first of `recordUsage`. What
opens and manages accounts, and every gate, leaves the rows as they are.

## Key results

- `sameRows_script`: no call on the tables writes a usage row
- `sameRows_chatGates` / `sameRows_nonChatGate`: neither does a gate
- `recordUsage_rows`: what `recordUsage` writes
-/

namespace ControlPlane

open Script

/-- The usage rows of two databases are the same. -/
def SameRows (a b : AccessDb) : Prop := b.ledger.usageEvents = a.ledger.usageEvents

/-- A statement of the store that writes no usage row. -/
def SameEvents (a b : Db) : Prop := b.usageEvents = a.usageEvents

section steps

variable {α : Type}

/-- A read writes no usage row. -/
theorem sameRows_read (f : AccessDb → α) : (Script.read f).Steps SameRows :=
  .read fun _ => rfl

/-- Nor does one of the ledger alone. -/
theorem sameEvents_read (f : Db → α) : (Script.read f).Steps SameEvents :=
  .read fun _ => rfl

/-- No table of identity is the ledger. -/
theorem sameRows_onIdentity (p : Script IdentityDb α) : (onIdentity p).Steps SameRows :=
  (Steps.any p).zoom fun _ _ _ => rfl

/-- A script on the ledger writes what it writes there. -/
theorem sameRows_onMoney {p : Script Db α} (h : p.Steps SameEvents) :
    (onMoney p).Steps SameRows := h.zoom fun _ _ h => h

/-! ## Calls on the tables -/

/-- Authentication writes no usage row. -/
theorem sameRows_requireCaller (sha256 : List UInt8 → List UInt8) (authorization : Option String) :
    (requireCaller sha256 authorization).Steps SameRows := by
  refine .bind ?_ fun _ => .done _
  unfold resolveClient
  -- the header, the client, its account and its plan: each is read or refused
  split
  · exact .done _
  refine .bind (sameRows_read _) fun client => ?_
  unfold checkClient
  split
  · exact .done _
  split
  · exact .done _
  split
  · exact .done _
  refine .bind (sameRows_onMoney (sameEvents_read _)) fun account => ?_
  split
  · exact .done _
  split
  · exact .done _
  refine .bind (sameRows_onMoney (sameEvents_read _)) fun plan => ?_
  split <;> exact .done _

/-- The rate limit writes no usage row. -/
theorem sameRows_checkInference (accountId : String) (limit : Int) :
    (checkInference accountId limit).Steps SameRows :=
  .bind (sameRows_onIdentity _) fun _ => sameRows_onIdentity _

/-- A plan is stored without one. -/
theorem sameRows_upsertPlan (raw : Json) : (handleUpsertPlan raw).Steps SameRows := by
  unfold handleUpsertPlan
  split
  · exact .done _
  split
  · exact .done _
  exact .bind (sameRows_onMoney (sameEvents_read _)) fun _ =>
    .bind (.exec fun _ => rfl) fun _ => .done _

/-- An account is created with a grant, and without a usage row. -/
theorem sameEvents_createAccountBatch (db : Db) (args : CreateAccountArgs) :
    SameEvents db (db.createAccountBatch args).1 := by
  unfold Db.createAccountBatch
  dsimp only
  -- an id that is taken stops the batch
  split <;> rfl

/-- So is the whole call. -/
theorem sameEvents_createAccount (raw : Json) (accountId grantId : String) :
    (handleCreateAccount raw accountId grantId).Steps SameEvents := by
  unfold handleCreateAccount
  split
  · exact .done _
  split
  · exact .done _
  refine .bind (sameEvents_read _) fun plan => ?_
  split
  · exact .done _
  refine .bind (.bind (.exec fun db => sameEvents_createAccountBatch db _) fun inserted => ?_)
    fun account => ?_
  · split
    · refine .bind (sameEvents_read _) fun row => ?_
      split <;> exact .done _
    · exact .done _
  · split <;> exact .done _

/-- A top-up writes a grant and no usage row. -/
theorem sameEvents_grantCredit (raw : Json) (accountId grantId : String) :
    (handleGrantCredit raw accountId grantId).Steps SameEvents := by
  unfold handleGrantCredit
  split
  · exact .done _
  refine .bind (sameEvents_read _) fun account => ?_
  split
  · exact .done _
  refine .bind (.bind (.exec fun _ => rfl) fun insert => ?_) fun _ => .done _
  dsimp only
  -- the account is credited only where the grant landed
  split
  · exact .bind (.exec fun _ => rfl) fun _ => .bind (sameEvents_read _) fun _ => .done _
  · exact .bind (sameEvents_read _) fun _ => .done _

/-- An enrollment token is stored without a usage row. -/
theorem sameRows_createEnrollment (sha256 : List UInt8 → List UInt8) (raw : Json) (nowMs : Int)
    (token : String) : (handleCreateEnrollment sha256 raw nowMs token).Steps SameRows := by
  -- the row goes into the table of tokens, or nowhere
  have hinsert (db : AccessDb) (row : EnrollmentRow) :
      SameRows db (db.insertEnrollment row).1 := by
    unfold AccessDb.insertEnrollment
    split <;> rfl
  unfold handleCreateEnrollment
  split
  · exact .done _
  split
  · exact .done _
  refine .bind (sameRows_onMoney (sameEvents_read _)) fun account => ?_
  split
  · exact .done _
  refine .bind (.bind (.exec fun db => hinsert db _) fun _ => .done _) fun created => ?_
  split <;> exact .done _

/-- So is a ticket for a voice session. -/
theorem sameRows_createSttSession (digests : Media.Digests) (authorization : Option String)
    (nowMs : Int) (secret : String) :
    (handleCreateSttSession digests authorization nowMs secret).Steps SameRows := by
  -- and a ticket's into the table of tickets
  have hinsert (db : AccessDb) (row : SttTicketRow) : SameRows db (db.insertTicket row).1 := by
    unfold AccessDb.insertTicket
    split <;> rfl
  refine .bind (sameRows_requireCaller _ _) fun authed => ?_
  split
  · exact .done _
  refine .bind (.bind (.exec fun db => hinsert db _) fun _ => .done _) fun created => ?_
  split <;> exact .done _

/-- And the caller of an upgrade is resolved without one. -/
theorem sameRows_resolveSttCaller (digests : Media.Digests) (auth : SttUpgradeAuth) :
    (resolveSttCaller digests auth).Steps SameRows := by
  -- redeeming writes the ticket only
  have hconsume (db : AccessDb) (tokenHash : String) :
      SameRows db (db.consumeTicket tokenHash).1 := by
    unfold AccessDb.consumeTicket
    split
    · rfl
    · split <;> rfl
  unfold resolveSttCaller
  split
  · exact sameRows_requireCaller _ _
  refine .bind (.bind (.exec fun db => hconsume db _) fun changed => ?_) fun ticket => ?_
  · split
    · exact sameRows_read _
    · exact .done _
  -- what follows only reads
  unfold ticketConsumed
  split
  · exact .done _
  refine .bind (sameRows_read _) fun client => ?_
  unfold ticketClient
  split
  · exact .done _
  split
  · exact .done _
  split
  · exact .done _
  refine .bind (sameRows_onMoney (sameEvents_read _)) fun account => ?_
  split
  · exact .done _
  split
  · exact .done _
  refine .bind (sameRows_onMoney (sameEvents_read _)) fun plan => ?_
  split <;> exact .done _

/-- An upgrade writes no usage row: its session does when it ends. -/
theorem sameRows_sttUpgrade (digests : Media.Digests) (catalog : Catalog) (req : SttUpgrade) :
    (req.handle digests catalog).Steps SameRows := by
  unfold SttUpgrade.handle
  -- the two bindings and the credential, before anything is read
  split
  · exact .done _
  split
  · exact .done _
  split
  · exact .done _
  refine .bind (sameRows_resolveSttCaller _ _) fun resolved => ?_
  split
  · exact .done _
  -- the gates only read, but for the rate bucket
  unfold SttUpgrade.gates
  split
  · exact .done _
  split
  · exact .done _
  split
  · exact .done _
  refine .bind (sameRows_read _) fun priceRow => ?_
  split
  · exact .done _
  refine .bind (sameRows_onIdentity _) fun now => .bind (sameRows_onIdentity _) fun rate => ?_
  split
  · refine .bind (sameRows_onMoney (sameEvents_read _)) fun period => ?_
    split <;> exact .done _
  · exact .done _

/-- A true-up has a table of its own. -/
theorem sameEvents_applyUsageAdjustment (row : UsageAdjustmentRow) :
    (applyUsageAdjustment row).Steps SameEvents := by
  -- the money is moved in accounts, periods and grants
  have hmove (db : Db) : SameEvents db (db.moveMoney row) := by
    unfold Db.moveMoney
    split <;> rfl
  refine .bind (.exec fun _ => rfl) fun insert => ?_
  split
  · exact .bind (.exec hmove) fun _ => .done _
  · exact .done _

/-- No call that opens or manages, resolves or reconciles writes a usage row. -/
theorem sameRows_script (digests : Media.Digests) (catalog : Catalog) {call : AccessCall}
    (h : call.recordsUsage = false) : (call.script digests catalog).Steps SameRows := by
  cases call with
  | upsertPlan raw => exact .bind (sameRows_upsertPlan raw) fun _ => .done _
  | createAccount raw accountId grantId =>
    exact .bind (sameRows_onMoney (sameEvents_createAccount raw accountId grantId)) fun _ => .done _
  | grantCredit raw accountId grantId =>
    exact .bind (sameRows_onMoney (sameEvents_grantCredit raw accountId grantId)) fun _ => .done _
  | createEnrollment raw nowMs token =>
    exact .bind (sameRows_createEnrollment _ raw nowMs token) fun _ => .done _
  | enroll ip body random => exact .bind (sameRows_onIdentity _) fun _ => .done _
  | revokeClient clientId =>
    exact .bind (.bind (.exec fun _ => rfl) fun _ => .done _) fun _ => .done _
  | authenticate authorization => exact .bind (sameRows_requireCaller _ _) fun _ => .done _
  | createSttSession authorization nowMs random =>
    exact .bind (sameRows_createSttSession digests authorization nowMs _) fun _ => .done _
  | sttUpgrade req => exact .bind (sameRows_sttUpgrade digests catalog req) fun _ => .done _
  -- the one call left out
  | recordUsage event createdAt => cases h
  | applyUsageAdjustment row =>
    exact .bind (sameRows_onMoney (sameEvents_applyUsageAdjustment row)) fun _ => .done _
  -- what others do to the plane is one statement each
  | suspend accountId suspendedAt => exact .exec fun _ => rfl
  | setPrices prices => exact .exec fun _ => rfl
  | claimBuckets buckets => exact .exec fun _ => rfl
  | clock now => exact .exec fun _ => rfl

/-! ## The gates -/

/-- The gates of the chat door write no usage row. -/
theorem sameRows_chatGates (http : ChatHttp) (deployment : Deployment) (req : ValidChatRequest)
    (sha256 : List UInt8 → List UInt8) : (http.gates deployment req sha256).Steps SameRows := by
  refine .bind (sameRows_requireCaller _ _) fun authed => ?_
  split
  · exact .done _
  -- the gates only read, but for the rate bucket
  unfold ChatHttp.planGate
  split
  · exact .done _
  refine .bind (sameRows_checkInference _ _) fun rate => ?_
  split
  · exact .done _
  split
  · exact .done _
  refine .bind (sameRows_read _) fun override => ?_
  split
  · exact .done _
  split
  · exact .done _
  refine .bind (sameRows_onMoney (sameEvents_read _)) fun period => ?_
  split
  · exact .done _
  split <;> exact .done _

/-- Nor do those of the other doors. -/
theorem sameRows_nonChatGate (request : NonChatRequest) (deployment : Deployment)
    (sha256 : List UInt8 → List UInt8) (modality : Modality) (raw : Json) :
    (request.gate deployment sha256 modality raw).Steps SameRows := by
  refine .bind (sameRows_requireCaller _ _) fun authed => ?_
  split
  · exact .done _
  refine .bind (sameRows_onMoney (sameEvents_read _)) fun planRow => ?_
  split
  · exact .done _
  split
  · exact .done _
  refine .bind (sameRows_checkInference _ _) fun rate => ?_
  split
  · exact .done _
  split
  · exact .done _
  refine .bind (sameRows_read _) fun priceRow => ?_
  split
  · exact .done _
  split
  · exact .done _
  refine .bind (sameRows_onMoney (sameEvents_read _)) fun period => ?_
  split
  · exact .done _
  split <;> exact .done _

/-! ## The row -/

/-- What the statements of `recordUsage` write: money, and the row of its event at most. -/
structure Records (event : UsageEvent) (createdAt : Int) (a b : Db) : Prop extends
    LedgerStep a b where
  rows : ∀ row ∈ b.usageEvents, row ∈ a.usageEvents ∨ row = event.row createdAt

/-- A step that appends nothing is one that may record the event. -/
theorem Records.of_same {event : UsageEvent} {createdAt : Int} {a b : Db} (h : LedgerStep a b)
    (hrows : SameEvents a b) : Records event createdAt a b :=
  { h with rows := fun _ hrow => .inl (hrows ▸ hrow) }

/-- Recording an event appends its row at most, step by step. -/
theorem recordUsage_rows (event : UsageEvent) (createdAt : Int) :
    (recordUsage event createdAt).Steps (Records event createdAt) := by
  refine .bind (.exec fun db => ?_) fun insert => ?_
  · refine { LedgerStep.of_eq rfl rfl with rows := fun row hrow => ?_ }
    replace hrow : row ∈ (Table.insertOrIgnore Db.eventConflict (event.row createdAt)
      db.usageEvents).1 := hrow
    -- the insert lands, or finds its row there
    rcases Table.insertOrIgnore_cases Db.eventConflict (event.row createdAt) db.usageEvents with
      ⟨heq, -⟩ | ⟨heq, -⟩
    · rw [heq] at hrow
      exact .inl hrow
    · rw [heq] at hrow
      exact (List.mem_append.mp hrow).imp_right List.mem_singleton.mp
  · split
    · refine .bind (.exec fun db => .of_same (.of_eq rfl rfl) rfl) fun _ => ?_
      unfold advanceSpent
      split
      · exact .exec fun db => .of_same (.addSpent db _ _) rfl
      · exact .done _
    · exact .done _

end steps

end ControlPlane
