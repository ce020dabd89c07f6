import ControlPlane.Spec.Attribution

/-!
# The ledger after a revocation

A revocation cannot stop what was let in before it. Once the calls that were under way have
ended, all that is left of a client is what outlives a call: a job it started, which is charged
when it has run, and a speech session it holds open, which is recorded without a charge when it
closes. Nothing else of the client is ever written again.

## Key results

- `revoked_ledger_final`: what may still be written
-/

namespace ControlPlane

section revoked

variable (digests : Media.Digests) (deployment : Deployment) (Calls : PlaneCall → Prop)

/-- What outlives the calls that were let in: a job may be charged, a session may not, once its
    client is revoked. -/
inductive Outstanding (plane : Plane) : RowIds → Bool → Prop
  | job {params : PlaneLongRunParams} {metered : Bool} (h : params ∈ plane.longruns) :
      Outstanding plane params.ids metered
  | session {stored : SttMeta} {nowMs : Int} {session : SessionMeta} (h : stored ∈ plane.sessions)
      (hmeta : stored.readMeta nowMs = some session) : Outstanding plane session.ids false

/-- The books from the moment on at which a client was found revoked. -/
def revokedBooks (clientId : String) (plane : Plane) : Books digests deployment Calls where
  Start db := RevokedIn clientId db
  Old row := row ∈ plane.tables.ledger.usageEvents
  Good t ids metered := (∃ s, Owed digests deployment Calls s ids t) ∧
    (ids.clientId = clientId → Outstanding plane ids metered)
  start_later h hlater := h.later hlater
  good_later h hlater := by
    obtain ⟨⟨s, howed⟩, hout⟩ := h
    exact ⟨⟨s, howed.later hlater⟩, hout⟩
  owed h := h.1
  admits hstart howed _ := by
    refine ⟨⟨_, howed⟩, fun hid => ?_⟩
    -- who is let in was live after the revocation
    obtain ⟨client, hlive, hclient, -⟩ := howed
    exact absurd (hclient.trans hid) (hstart.not_live hlive)
  charges ht hstart hgood hclient hid hlive := by
    refine ⟨hgood.1, fun hrevoked => ?_⟩
    obtain ⟨row, hrow, hrowId, hsome⟩ := hstart
    obtain rfl := ht.distinct.eq_of_id hrow hclient (hrowId.trans (hrevoked.symm.trans hid.symm))
    rw [hlive] at hsome
    cases hsome

variable {digests deployment Calls} {now : Int} {c c' : Pool Plane Unit}

/-- From a moment on at which the calls under way have ended, every usage row of a revoked
    client is one it had, or is of a job it had started, or of a session it had open; and for a
    session it is not charged. -/
theorem revoked_ledger_final (h : PlaneRun digests deployment Calls now c)
    (hminted : PlatformMinted (TableCalls Calls)) (hidle : c.AllDone) {clientId : String}
    (hrevoked : RevokedIn clientId c.store.tables)
    (hreach : Pool.Reach (IsPlaneCall digests deployment Calls) c c') :
    ∀ row ∈ c'.store.tables.ledger.usageEvents, row.clientId = clientId →
      row ∈ c.store.tables.ledger.usageEvents ∨
      (∃ params ∈ c.store.longruns, params.ids = row.ids) ∨
      (row.metered = false ∧ ∃ stored ∈ c.store.sessions, ∃ nowMs session,
        stored.readMeta nowMs = some session ∧ session.ids = row.ids) := by
  have hbooks := h.inOrder hminted
  -- with no thread under way, all that can still be written has been handed over
  have hstart : c.Under (revokedBooks digests deployment Calls clientId c.store).discipline
      fun _ _ => True := by
    refine ⟨⟨hbooks.sound, hrevoked, fun row hrow => .inl hrow, fun params hparams =>
      ⟨hbooks.jobs params hparams, fun _ => .job hparams⟩, fun stored hstored nowMs session hmeta =>
      ⟨hbooks.sessions stored hstored nowMs session hmeta, fun _ => .session hstored hmeta⟩⟩,
      fun script hscript => ?_⟩
    obtain ⟨result, rfl⟩ := hidle script hscript
    exact .done fun _ _ _ => trivial
  intro row hrow hclient
  refine ((Books.run_inOrder hminted hstart hreach).rows row hrow).imp_right fun hgood => ?_
  obtain ⟨-, hout⟩ := hgood
  generalize hids : row.ids = ids at hout ⊢
  generalize hmetered : row.metered = metered at hout ⊢
  cases hout (hids ▸ hclient) with
  | job hparams => exact .inl ⟨_, hparams, rfl⟩
  | session hstored hmeta => exact .inr ⟨rfl, _, hstored, _, _, hmeta, rfl⟩

end revoked

/-! ## A run -/

/-- A second request with the key of the sample. -/
def sampleLateChat : PlaneCall :=
  .chat { sampleChat with requestId := newRequestId (.replicate 12 9) } sampleWorld

/-- The app of the sample is revoked after its request. -/
def revokedCalls : List PlaneCall :=
  planeCalls ++ [.access (.revokeClient (newId "cli" sampleKeyBytes.clientId)) rfl]

/-- The client is revoked, and no call is under way. -/
def sampleIdle : Pool Plane Unit :=
  Pool.exec
    ⟨.migrated 0, revokedCalls.map fun call => call.script sampleDigests sampleDeployment⟩
    ([0, 0, 0, 1, 1] ++ List.replicate 7 2 ++ List.replicate 11 3 ++ [4])

/-- One more call is started, and the calls take turns. -/
def askedLater (c : Pool Plane Unit) (call : PlaneCall) (schedule : List Nat) : Pool Plane Unit :=
  Pool.exec ⟨c.store, c.threads ++ [call.script sampleDigests sampleDeployment]⟩ schedule

theorem reach_askedLater {Calls : PlaneCall → Prop} {call : PlaneCall} (hcall : Calls call)
    (c : Pool Plane Unit) (schedule : List Nat) :
    Pool.Reach (IsPlaneCall sampleDigests sampleDeployment Calls) c
      (askedLater c call schedule) := by
  refine (Pool.reach_start c.store c.threads _ fun script hscript => ?_).trans
    (Pool.reach_exec _ _)
  exact ⟨call, hcall, List.mem_singleton.mp hscript⟩

/-- The app asks again. -/
def sampleLate : Pool Plane Unit := askedLater sampleIdle sampleLateChat [5, 5, 5]

/-- The row of the sample is the last of its client. -/
theorem revoked_ledger_final_sample : ∃ row ∈ sampleLate.store.tables.ledger.usageEvents,
    row.clientId = newId "cli" sampleKeyBytes.clientId ∧
      (row ∈ sampleIdle.store.tables.ledger.usageEvents ∨
        (∃ params ∈ sampleIdle.store.longruns, params.ids = row.ids) ∨
        (row.metered = false ∧ ∃ stored ∈ sampleIdle.store.sessions, ∃ nowMs session,
          stored.readMeta nowMs = some session ∧ session.ids = row.ids)) := by
  -- the sample is computed: idle, the client revoked, one of its rows there
  have hcomputed : (sampleIdle.threads.all (·.isDone) &&
      sampleIdle.store.tables.clients.any (fun row =>
        row.id == newId "cli" sampleKeyBytes.clientId && row.revokedAt.isSome) &&
      sampleLate.store.tables.ledger.usageEvents.any (fun row =>
        row.clientId == newId "cli" sampleKeyBytes.clientId)) = true := by decide +kernel
  simp only [Bool.and_eq_true, List.all_eq_true, List.any_eq_true, beq_iff_eq] at hcomputed
  obtain ⟨⟨hidle, client, hclient, hrevoked⟩, row, hrow, hid⟩ := hcomputed
  have hrun : PlaneRun sampleDigests sampleDeployment (· ∈ revokedCalls ++ [sampleLateChat]) 0
      sampleIdle := planeRun_exec (fun _ h => List.mem_append_left _ h) 0 _
  have hreach : Pool.Reach (IsPlaneCall sampleDigests sampleDeployment
      (· ∈ revokedCalls ++ [sampleLateChat])) sampleIdle sampleLate :=
    reach_askedLater (by simp) sampleIdle [5, 5, 5]
  exact ⟨row, hrow, hid, revoked_ledger_final hrun (platformMinted_of_isSample (by decide +kernel))
    (fun script h => Script.exists_of_isDone (hidle script h)) ⟨client, hclient, hrevoked⟩ hreach
    row hrow hid⟩

end ControlPlane
