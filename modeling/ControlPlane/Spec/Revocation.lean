import ControlPlane.ForStd.Once
import ControlPlane.Spec.ClientKeys

/-!
# Revocation

Once a revocation is answered, no request that starts later is let in as that client: not
with its key, and not with a ticket that was minted for it before. However many revocations
of one client race, one of them at most reports that it was the one.

## Key results

- `revocation_final`: what starts later is refused
- `revoked_once`: one answer at most reports the revocation
-/

namespace ControlPlane

section revocation

variable {digests : Media.Digests} {catalog : Catalog} {Calls : AccessCall → Prop} {now : Int}
  {c c' c'' : Pool AccessDb AccessAnswer}

/-- The answer lets a request in as the client. -/
def LetsIn (clientId : String) : AccessAnswer → Prop
  | .authenticated _ (.ok caller) => caller.client.id = clientId
  | .handedOff _ (.ok handoff) => handoff.claims.clientId = clientId
  | _ => False

/-- The rows of the client in a store are revoked. -/
def RevokedIn (clientId : String) (db : AccessDb) : Prop :=
  ∃ row ∈ db.clients, row.id = clientId ∧ row.revokedAt.isSome

theorem RevokedIn.later {clientId : String} {db db' : AccessDb} (hle : Later Calls db db')
    (h : RevokedIn clientId db) : RevokedIn clientId db' := by
  obtain ⟨row, hrow, hid, hrevoked⟩ := h
  obtain ⟨row', hrow', hkeep⟩ := hle.clients row hrow
  exact ⟨row', hrow', hkeep.fields.1.trans hid, hkeep.stays hrevoked ▸ hrevoked⟩

/-- No live client of a later moment is the revoked one. -/
theorem RevokedIn.not_live {clientId : String} {s t : AccessDb} (h : RevokedIn clientId s)
    {client : ClientRow} (hlive : LiveClient Calls s client t) : client.id ≠ clientId := by
  rintro rfl
  obtain ⟨row, hrow, hid, hrevoked⟩ := h
  rw [hlive.live row hrow hid] at hrevoked
  cases hrevoked

/-- What a call that starts after the revocation answers does not let it in. -/
theorem RevokedIn.not_letsIn {clientId : String} {s t : AccessDb} (h : RevokedIn clientId s)
    {call : AccessCall} {answer : AccessAnswer}
    (htold : AccessAnswer.Says digests Calls call s answer t) : ¬LetsIn clientId answer := by
  intro hlets
  -- only an authentication and an upgrade let anyone in
  cases call with
  | authenticate authorization =>
    obtain ⟨result, rfl, hresult⟩ := htold
    cases result with
    | error err => exact hlets
    | ok caller => exact h.not_live hresult.ok.1.toLiveClient hlets
  | sttUpgrade req =>
    obtain ⟨result, rfl, hresult⟩ := htold
    cases result with
    | error err => exact hlets
    | ok handoff =>
      obtain ⟨auth, caller, secret, -, hadmitted, -, rfl⟩ := hresult handoff rfl
      exact h.not_live hadmitted.live.toLiveClient hlets
  | enroll ip body random =>
    obtain ⟨enrolled, rfl, -⟩ := htold
    exact hlets
  | revokeClient revoked =>
    obtain ⟨response, rfl, -⟩ := htold
    exact hlets
  | createSttSession authorization nowMs random =>
    obtain ⟨result, rfl, -⟩ := htold
    exact hlets
  | _ =>
    obtain rfl : answer = .other := htold
    exact hlets

/-- The key of a revoked client is answered with its revocation, and nothing else. -/
theorem RevokedIn.resolution {s t : AccessDb} (ht : Sound digests Calls t)
    (hst : Later Calls s t) {row : ClientRow} (hrow : row ∈ s.clients) (h : RevokedIn row.id s)
    {authorization : Option String} (hpresents : PresentsKey digests authorization row)
    {resolved : Except ResolveFailure Caller}
    (hres : Resolution digests Calls authorization s resolved t) :
    resolved = .error .revoked := by
  -- whoever presents this key is this client
  have honly {client : ClientRow} (hlive : LiveClient Calls s client t)
      (hclient : PresentsKey digests authorization client) : client.id = row.id := by
    obtain ⟨client', hclient', hkeep⟩ := hlive.row
    obtain ⟨row', hrow', hkeep'⟩ := hst.clients row hrow
    obtain ⟨key, hkey, hid, -⟩ := hclient.of_keeps hkeep
    obtain ⟨key', hkey', hid', -⟩ := hpresents.of_keeps hkeep'
    obtain rfl : key = key' := Option.some.inj (hkey.symm.trans hkey')
    obtain rfl := ht.distinct.eq_of_keyId hclient' hrow' (hid.trans hid'.symm)
    exact hkeep.fields.1.symm.trans hkeep'.fields.1
  cases resolved with
  | ok caller => exact absurd (honly hres.1.toLiveClient hres.2) (h.not_live hres.1.toLiveClient)
  | error failure =>
    cases failure with
    | unauthenticated => exact absurd hpresents (hres row hrow)
    | revoked => rfl
    | suspended =>
      obtain ⟨client, hlive, hclient, -⟩ := hres
      exact absurd (honly hlive hclient) (h.not_live hlive)
    | misconfigured detail => exact absurd hres id

/-- A client whose revocation was answered is let in by no request that starts later, and a
    request with its key is told that it is revoked. -/
theorem revocation_final (h : AccessRun digests catalog Calls now c) {row : ClientRow}
    (hrow : row ∈ c.store.clients) (hcall : Calls (.revokeClient row.id)) {n : Nat}
    (hstart : c.threads[n]? = some ((AccessCall.revokeClient row.id).script digests catalog))
    (hreach : Pool.Reach (IsCall digests catalog Calls) c c') {answer : AccessAnswer}
    (hanswer : c'.threads[n]? = some (.done answer)) {call : AccessCall} (hcall' : Calls call)
    {m : Nat} (hstart' : c'.threads[m]? = some (call.script digests catalog))
    (hreach' : Pool.Reach (IsCall digests catalog Calls) c' c'') {answer' : AccessAnswer}
    (hanswer' : c''.threads[m]? = some (.done answer')) :
    ¬LetsIn row.id answer' ∧
    ∀ authorization, call = .authenticate authorization →
      PresentsKey digests authorization row →
      answer' = .authenticated authorization (.error ResolveFailure.revoked.response) := by
  have hrun' : AccessRun digests catalog Calls now c' := h.trans hreach
  have hrun'' : AccessRun digests catalog Calls now c'' := hrun'.trans hreach'
  -- the answered revocation has left the client revoked
  have hrevoked : RevokedIn row.id c'.store := by
    obtain ⟨-, -, -, hrevoked⟩ := h.result hcall hstart hreach hanswer
    exact hrevoked row hrow rfl
  have htold := hrun'.result hcall' hstart' hreach' hanswer'
  refine ⟨hrevoked.not_letsIn htold, fun authorization hauthenticate hpresents => ?_⟩
  subst hauthenticate
  -- the row the key belongs to is kept, with its id and its hash
  obtain ⟨row', hrow', hkeep⟩ := (h.later hreach).clients row hrow
  obtain ⟨result, rfl, resolved, rfl, hres⟩ := htold
  have hid : row'.id = row.id := hkeep.fields.1
  rw [RevokedIn.resolution hrun''.sound (hrun'.later hreach') hrow' (hid ▸ hrevoked)
    (hpresents.of_keeps hkeep) hres]
  rfl

/-! ## Racing revocations -/

/-- The answer that reports the revocation of a client. -/
def reports (clientId : String) : AccessAnswer → Bool
  | .revoked response => response.clientId == clientId && response.revoked
  | _ => false

/-- The update reports only a row it has revoked. -/
theorem revoke_flips {clientId id : String} {t : AccessDb} (ht : Distinct t.clients)
    (h : (t.revoke id).2 = true) (hid : id = clientId) :
    ¬RevokedIn clientId t ∧ RevokedIn clientId (t.revoke id).1 := by
  subst hid
  obtain ⟨row, hrow, hopen⟩ := List.any_eq_true.mp h
  obtain ⟨hrowId, hnone⟩ := of_decide_eq_true hopen
  constructor
  · rintro ⟨row', hrow', hid', hrevoked⟩
    obtain rfl := ht.eq_of_id hrow' hrow (hid'.trans hrowId.symm)
    rw [hnone] at hrevoked
    cases hrevoked
  · refine ⟨AccessDb.revokedRow id t.datetimeNow row, List.mem_map_of_mem hrow, ?_, ?_⟩
    · rw [AccessDb.revokedRow, if_pos ⟨hrowId, hnone⟩]
      exact hrowId
    · rw [AccessDb.revokedRow, if_pos ⟨hrowId, hnone⟩]
      rfl

theorem handleRevokeClient_flips (clientId id : String) (s : AccessDb) :
    (handleRevokeClient id).Flips (access digests Calls) (RevokedIn clientId)
      (fun response => response.clientId == clientId && response.revoked) s := by
  refine Script.Flips.claim fun t ht _ => ?_
  by_cases hid : id = clientId
  · cases hrevoked : (t.revoke id).2 with
    | false => exact .inl (by simp [Script.Flips])
    | true => exact .inr (revoke_flips (Sound.distinct ht) hrevoked hid)
  · exact .inl (by simp [Script.Flips, hid])

theorem revoke_once_flips {clientId : String} {call : AccessCall} (hcall : Calls call)
    {s : AccessDb} (hs : Sound digests Calls s) :
    (call.script digests catalog).Flips (access digests Calls) (RevokedIn clientId)
      (reports clientId) s := by
  have hunder := script_under catalog hcall hs
  -- no other call reports a revocation
  cases call with
  | revokeClient id => exact (handleRevokeClient_flips clientId id s).andThen fun _ _ h => h
  | enroll ip body random =>
    refine .never hs hunder fun answer t htold => ?_
    obtain ⟨enrolled, rfl, -⟩ := htold
    rfl
  | authenticate authorization =>
    refine .never hs hunder fun answer t htold => ?_
    obtain ⟨result, rfl, -⟩ := htold
    rfl
  | createSttSession authorization nowMs random =>
    refine .never hs hunder fun answer t htold => ?_
    obtain ⟨result, rfl, -⟩ := htold
    rfl
  | sttUpgrade req =>
    refine .never hs hunder fun answer t htold => ?_
    obtain ⟨result, rfl, -⟩ := htold
    rfl
  | _ =>
    refine .never hs hunder fun answer t htold => ?_
    obtain rfl : answer = .other := htold
    rfl

/-- However many revocations of a client run, one at most is told that it revoked it. -/
theorem revoked_once (h : AccessRun digests catalog Calls now c) (clientId : String) :
    c.threads.countP (Pool.endedWell (reports clientId)) ≤ 1 := by
  have hstays : ∀ s s', (access digests Calls).Le s s' → RevokedIn clientId s →
      RevokedIn clientId s' := fun _ _ hle hrevoked => hrevoked.later hle
  refine Pool.once hstays (sound_migrated digests Calls now) ?_ h
  rintro script ⟨call, hcall, rfl⟩ s hs
  exact ⟨(script_under catalog hcall hs).trivial, revoke_once_flips hcall hs⟩

end revocation

/-! ## A race -/

/-- The id of the sample app. -/
def sampleClientId : String := newId "cli" sampleKeyBytes.clientId

/-- The app of the sample is revoked by two operators at once, and asks again. -/
def revocationCalls : List AccessCall :=
  sampleCalls ++ [.revokeClient sampleClientId, .revokeClient sampleClientId,
    .authenticate (some ("Bearer " ++ sampleKeyBytes.clientKey))]

/-- The app is enrolled, and one of its requests and one of the operators have begun. -/
def sampleBeforeRevocation : Pool AccessDb AccessAnswer :=
  Pool.exec ⟨.migrated 0, revocationCalls.map fun call => call.script sampleDigests []⟩
    [0, 0, 0, 1, 1, 2, 2, 2, 2, 2, 2, 2, 3, 5]

/-- The sample after both operators have answered. -/
def sampleRevoked : Pool AccessDb AccessAnswer := sampleBeforeRevocation.exec [4]

/-- The sample after the app has asked again and been answered. -/
def sampleAskedAgain : Pool AccessDb AccessAnswer := sampleRevoked.exec [3, 6, 3]

theorem accessRun_sampleBeforeRevocation :
    AccessRun sampleDigests [] (· ∈ revocationCalls) 0 sampleBeforeRevocation :=
  accessRun_exec (fun _ h => h) _

/-- Both operators and the later request are answered, one operator with the revocation. -/
theorem sampleAskedAgain_answered :
    (sampleBeforeRevocation.store.clients.any fun row => row.id = sampleClientId ∧
      row.keyId = newKeyId sampleKeyBytes.keyId ∧
      row.secretHash = sha256Hex sampleDigests.sha256 (randomSecret sampleKeyBytes.secret)) ∧
    (sampleRevoked.threads[4]?).any (answered fun _ => true) ∧
    (sampleRevoked.threads[5]?).any (Pool.endedWell (reports sampleClientId)) ∧
    (sampleAskedAgain.threads[6]?).any (answered fun _ => true) := by decide +kernel

/-- The later request of the sample is refused. -/
theorem revocation_final_sample : ∃ result,
    sampleAskedAgain.threads[6]? = some (.done
      (.authenticated (some ("Bearer " ++ sampleKeyBytes.clientKey)) result)) ∧
    result = .error ResolveFailure.revoked.response := by
  obtain ⟨hclient, hrevoked, -, hasked⟩ := sampleAskedAgain_answered
  obtain ⟨row, hrow, hfields⟩ := List.any_eq_true.mp hclient
  obtain ⟨hid, hkeyId, hhash⟩ := of_decide_eq_true hfields
  obtain ⟨answer, hanswer, -⟩ := exists_of_answered hrevoked
  obtain ⟨answer', hanswer', -⟩ := exists_of_answered hasked
  have hstart : sampleBeforeRevocation.threads[4]? =
      some ((AccessCall.revokeClient row.id).script sampleDigests []) := by
    rw [hid]
    exact Pool.getElem?_exec (by decide) _
  have hstart' : sampleRevoked.threads[6]? = some ((AccessCall.authenticate
      (some ("Bearer " ++ sampleKeyBytes.clientKey))).script sampleDigests []) :=
    (Pool.getElem?_exec (by decide) sampleBeforeRevocation).trans (Pool.getElem?_exec (by decide) _)
  have hfinal := revocation_final accessRun_sampleBeforeRevocation hrow
    (by rw [hid]; simp [revocationCalls]) hstart (Pool.reach_exec sampleBeforeRevocation [4])
    hanswer (by simp [revocationCalls]) hstart' (Pool.reach_exec sampleRevoked [3, 6, 3]) hanswer'
  have hrefused := hfinal.2 _ rfl ⟨_, presented_clientKey sampleKeyBytes, hkeyId, hhash⟩
  rw [hrefused] at hanswer'
  exact ⟨_, hanswer', rfl⟩

/-- Of the two operators of the sample one is told that it revoked the app. -/
theorem revoked_once_sample :
    (sampleRevoked.threads.countP (Pool.endedWell (reports sampleClientId))) ≤ 1 ∧
    (sampleRevoked.threads[5]?).any (Pool.endedWell (reports sampleClientId)) = true := by
  have hrun : AccessRun sampleDigests [] (· ∈ revocationCalls) 0 sampleRevoked :=
    accessRun_sampleBeforeRevocation.trans (Pool.reach_exec _ _)
  exact ⟨revoked_once hrun sampleClientId, sampleAskedAgain_answered.2.2.1⟩

end ControlPlane
