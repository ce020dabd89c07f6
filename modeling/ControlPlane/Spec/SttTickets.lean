import ControlPlane.Spec.Revocation

/-!
# Tickets of speech sessions

A browser opens its socket with a ticket instead of the key. However many upgrades race for
one ticket, one session at most comes of it, and it is a session of the client whose key the
ticket was minted with, within the lifetime of the ticket.

## Key results

- `consumeSttTicket_flips`: the update that redeems a ticket does so once
- `ticket_single_use`: one session at most for a ticket, and for whom
-/

namespace ControlPlane

section tickets

variable {digests : Media.Digests} {catalog : Catalog} {Calls : AccessCall → Prop} {now : Int}
  {c : Pool AccessDb AccessAnswer}

/-- The ticket of a hash is consumed. -/
def ConsumedIn (tokenHash : String) (db : AccessDb) : Prop :=
  ∃ row, db.sttTickets tokenHash = some row ∧ row.consumedAt.isSome

theorem ConsumedIn.later {tokenHash : String} {db db' : AccessDb} (hle : Later Calls db db')
    (h : ConsumedIn tokenHash db) : ConsumedIn tokenHash db' := by
  obtain ⟨row, hrow, hconsumed⟩ := h
  obtain ⟨row', hrow', hkeep⟩ := hle.ticket hrow
  exact ⟨row', hrow', hkeep.stays hconsumed ▸ hconsumed⟩

/-- The update changes an unconsumed row only. -/
theorem consumeTicket_flips {tokenHash : String} {t : AccessDb}
    (h : (t.consumeTicket tokenHash).2 = true) :
    ¬ConsumedIn tokenHash t ∧ ConsumedIn tokenHash (t.consumeTicket tokenHash).1 := by
  unfold AccessDb.consumeTicket at h ⊢
  cases hrow : t.sttTickets tokenHash with
  | none =>
    rw [hrow] at h
    cases h
  | some row =>
    rw [hrow] at h
    dsimp only at h ⊢
    split at h
    -- the row was open before, and is stamped now
    next hopen =>
      rw [if_pos hopen]
      refine ⟨?_, ⟨_, if_pos rfl, rfl⟩⟩
      rintro ⟨row', hrow', hconsumed⟩
      obtain rfl : row = row' := Option.some.inj (hrow.symm.trans hrow')
      rw [hopen.1] at hconsumed
      cases hconsumed
    next => cases h

/-- A ticket is redeemed only by the update that consumes it. -/
theorem consumeSttTicket_flips (tokenHash : String) (s : AccessDb) :
    (consumeSttTicket tokenHash).Flips (access digests Calls) (ConsumedIn tokenHash)
      (fun redeemed => redeemed.isSome) s := by
  refine Script.Flips.claim fun t _ _ => ?_
  cases hchanged : (t.consumeTicket tokenHash).2 with
  | false => exact .inl rfl
  | true => exact .inr (consumeTicket_flips hchanged)

/-- The answer hands over a session that a ticket opened. -/
def opensWith (ticket : String) : AccessAnswer → Bool
  | .handedOff req (.ok _) =>
    authFromSttUpgrade req.authorization req.protocol = some (.sttTicket ticket)
  | _ => false

theorem resolveSttCaller_flips (ticket : String) (s : AccessDb) :
    (resolveSttCaller digests (.sttTicket ticket)).Flips (access digests Calls)
      (ConsumedIn (sha256Hex digests.sha256 ticket)) (fun resolved => resolved.isOk) s := by
  refine Script.Flips.andThen (consumeSttTicket_flips _ s) fun redeemed t hredeemed => ?_
  cases redeemed with
  | none => rfl
  | some redeemed => cases hredeemed

/-- An upgrade with the ticket gets its session by redeeming it. -/
theorem handle_flips {req : SttUpgrade} {ticket : String}
    (hauth : authFromSttUpgrade req.authorization req.protocol = some (.sttTicket ticket))
    (s : AccessDb) : (req.handle digests catalog).Flips (access digests Calls)
      (ConsumedIn (sha256Hex digests.sha256 ticket)) (fun answer => answer.isOk) s := by
  unfold SttUpgrade.handle
  split
  · rfl
  split
  · rfl
  rw [hauth]
  refine Script.Flips.andThen (resolveSttCaller_flips ticket s) fun resolved t hresolved => ?_
  cases resolved with
  | error err => rfl
  | ok caller => cases hresolved

theorem ticket_flips {ticket : String} {call : AccessCall} (hcall : Calls call) {s : AccessDb}
    (hs : Sound digests Calls s) : (call.script digests catalog).Flips (access digests Calls)
      (ConsumedIn (sha256Hex digests.sha256 ticket)) (opensWith ticket) s := by
  have hunder := script_under catalog hcall hs
  cases call with
  | sttUpgrade req =>
    -- an upgrade with another credential opens nothing with this ticket
    by_cases hauth : authFromSttUpgrade req.authorization req.protocol = some (.sttTicket ticket)
    · refine Script.Flips.andThen (handle_flips hauth s) fun answer t hanswer => ?_
      cases answer with
      | error err => rfl
      | ok handoff => cases hanswer
    · refine .never hs hunder fun answer t htold => ?_
      obtain ⟨result, rfl, -⟩ := htold
      cases result with
      | error err => rfl
      | ok handoff => exact decide_eq_false hauth
  | enroll ip body random =>
    refine .never hs hunder fun answer t htold => ?_
    obtain ⟨enrolled, rfl, -⟩ := htold
    rfl
  | revokeClient id =>
    refine .never hs hunder fun answer t htold => ?_
    obtain ⟨response, rfl, -⟩ := htold
    rfl
  | authenticate authorization =>
    refine .never hs hunder fun answer t htold => ?_
    obtain ⟨result, rfl, -⟩ := htold
    rfl
  | createSttSession authorization nowMs random =>
    refine .never hs hunder fun answer t htold => ?_
    obtain ⟨result, rfl, -⟩ := htold
    rfl
  | _ =>
    refine .never hs hunder fun answer t htold => ?_
    obtain rfl : answer = .other := htold
    rfl

/-- What a session that a ticket opened goes back to: the request that minted the ticket with
    the key of the client, and an update that redeemed it in time. -/
structure TicketTrail (digests : Media.Digests) (Calls : AccessCall → Prop) (db : AccessDb)
    (ticket : String) (claims : HandoffClaims) : Prop where
  row : ∃ row, db.sttTickets (sha256Hex digests.sha256 ticket) = some row ∧
    (∃ time, row.consumedAt = some time ∧ sqlDatetime time < sqlDatetime row.expiresAt) ∧
    ∃ authorization nowMs random, ∃ client ∈ db.clients,
      MintedFor digests Calls authorization nowMs random client
        (sha256Hex digests.sha256 ticket, row) ∧
      claims.clientId = client.id ∧ claims.accountId = client.accountId

/-- One session at most comes of a ticket, however many upgrades race for it, and it is one of
    the client the ticket was minted for, opened before the ticket expired. -/
theorem ticket_single_use (h : AccessRun digests catalog Calls now c) (ticket : String) :
    c.threads.countP (Pool.endedWell (opensWith ticket)) ≤ 1 ∧
    ∀ req handoff, .done (.handedOff req (.ok handoff)) ∈ c.threads →
      authFromSttUpgrade req.authorization req.protocol = some (.sttTicket ticket) →
      TicketTrail digests Calls c.store ticket handoff.claims := by
  constructor
  · have hstays : ∀ s s', (access digests Calls).Le s s' →
        ConsumedIn (sha256Hex digests.sha256 ticket) s →
        ConsumedIn (sha256Hex digests.sha256 ticket) s' :=
      fun _ _ hle hconsumed => hconsumed.later hle
    -- each upgrade that opens with the ticket has flipped it
    refine Pool.once hstays (sound_migrated digests Calls now) ?_ h
    rintro script ⟨call, hcall, rfl⟩ s hs
    exact ⟨(script_under catalog hcall hs).trivial, ticket_flips hcall hs⟩
  · intro req handoff hdone hauth
    obtain ⟨-, s, hover⟩ := h.handedOff hdone
    obtain ⟨auth, caller, secret, hauth', hadmitted, -, rfl⟩ := hover handoff rfl
    obtain rfl : .sttTicket ticket = auth := Option.some.inj (hauth.symm.trans hauth')
    obtain ⟨row, hrow, hconsumed, hclientId, haccountId⟩ := hadmitted.authorized
    -- the row of the ticket says who minted it, and that it was in time
    have hsound := h.sound.tickets (_, row) hrow
    obtain ⟨authorization, nowMs, random, client, hclient, hminted⟩ := hsound.minted
    obtain ⟨time, htime⟩ := Option.isSome_iff_exists.mp hconsumed
    exact ⟨row, hrow, ⟨time, htime, hsound.inTime time htime⟩, authorization, nowMs, random, client,
      hclient, hminted, hclientId.symm.trans hminted.clientId,
      hadmitted.live.account.trans (haccountId.symm.trans hminted.accountId)⟩

end tickets

/-! ## A race -/

/-- The random bytes of the sample ticket. -/
def sampleTicketBytes : Vector UInt8 32 := .replicate 32 4

/-- The sample ticket. -/
def sampleTicket : String := formatSttTicket (randomSecret sampleTicketBytes)

/-- The model of the live microphone. -/
def sampleFluxEntry : CatalogEntry where
  id := FLUX_STT_MODEL
  upstream := FLUX_STT_MODEL
  binding := false
  api := .chat
  modality := .voice
  billing := .workersAi
  tier := .standard
  maxOutputTokens := none
  unitPrice := some ⟨7700, .audioMinute⟩

/-- A browser's upgrade with the ticket. -/
def sampleUpgrade (random : UInt8) : SttUpgrade where
  authorization := none
  protocol := some ("prism.v1, " ++ sampleTicket)
  nowMs := 1000
  requestId := newRequestId (.replicate 12 random)
  sessionBound := true
  aiBound := true
  aigToken := some "a-gateway-token-to-sign-with"

/-- An app mints a ticket, and two sockets are opened with it. -/
def ticketCalls : List AccessCall :=
  sampleCalls.take 3 ++
    [.createSttSession (some ("Bearer " ++ sampleKeyBytes.clientKey)) 0 sampleTicketBytes,
      .sttUpgrade (sampleUpgrade 1), .sttUpgrade (sampleUpgrade 2)]

/-- Both upgrades have begun when the first of them redeems the ticket. -/
def sampleRaced : Pool AccessDb AccessAnswer :=
  Pool.exec ⟨.migrated 0, ticketCalls.map fun call => call.script sampleDigests [sampleFluxEntry]⟩
    [0, 0, 0, 1, 1, 2, 2, 2, 2, 2, 2, 2, 3, 3, 3, 3, 4, 5, 4, 4, 4, 4, 4, 4, 4, 4]

/-- The first upgrade of the sample gets its session. -/
def handsOffFirst : AccessAnswer → Bool
  | .handedOff req (.ok _) => req = sampleUpgrade 1
  | _ => false

/-- One of the two gets the session. -/
theorem ticket_single_use_sample : ∃ handoff,
    .done (.handedOff (sampleUpgrade 1) (.ok handoff)) ∈ sampleRaced.threads ∧
    sampleRaced.threads.countP (Pool.endedWell (opensWith sampleTicket)) ≤ 1 ∧
    TicketTrail sampleDigests (· ∈ ticketCalls) sampleRaced.store sampleTicket handoff.claims := by
  have hanswered : (sampleRaced.threads[4]?).any (answered handsOffFirst) = true := by
    decide +kernel
  obtain ⟨answer, hget, hkind⟩ := exists_of_answered hanswered
  unfold handsOffFirst at hkind
  split at hkind
  next req handoff =>
    rw [of_decide_eq_true hkind] at hget
    have hrun : AccessRun sampleDigests [sampleFluxEntry] (· ∈ ticketCalls) 0 sampleRaced :=
      accessRun_exec (fun _ h => h) _
    obtain ⟨honce, htrail⟩ := ticket_single_use hrun sampleTicket
    have hauth : authFromSttUpgrade (sampleUpgrade 1).authorization
        (sampleUpgrade 1).protocol = some (.sttTicket sampleTicket) := by decide +kernel
    have hmem := List.mem_of_getElem? hget
    exact ⟨handoff, hmem, honce, htrail _ handoff hmem hauth⟩
  next => cases hkind

end ControlPlane
