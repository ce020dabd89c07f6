import ControlPlane.Spec.AccessStatements
import ControlPlane.Spec.KeyFormat

/-!
# The caller of a request

A caller is put together from rows read at different moments, with the writes of other
requests between them. What the moments have in common is that no row loses what was read:
a client that was found unrevoked was so at every moment before, and the account and plan
it leads to are there when they are looked up.

## Key results

- `resolveClient_under`: the caller of a header, or why there is none
- `requireCaller_under`: what a route is answered
-/

namespace ControlPlane

open Rows Script

section clients

variable {clients : List ClientRow} (h : Distinct clients) {a b : ClientRow} (ha : a ∈ clients)
  (hb : b ∈ clients)
include h ha hb

theorem Distinct.ne_of_ne (hne : a ≠ b) : a.id ≠ b.id ∧ a.keyId ≠ b.keyId :=
  have : Std.Symm fun a b : ClientRow => a.id ≠ b.id ∧ a.keyId ≠ b.keyId :=
    ⟨fun _ _ h => ⟨h.1.symm, h.2.symm⟩⟩
  List.Pairwise.forall h ha hb hne

theorem Distinct.eq_of_id (hid : a.id = b.id) : a = b :=
  by_contra fun hne => (h.ne_of_ne ha hb hne).1 hid

theorem Distinct.eq_of_keyId (hkey : a.keyId = b.keyId) : a = b :=
  by_contra fun hne => (h.ne_of_ne ha hb hne).2 hkey

end clients

section under

variable (digests : Media.Digests) (Calls : AccessCall → Prop)

/-! ## Callers -/

/-- A client that was read, unrevoked, after `s`. -/
structure LiveClient (s : AccessDb) (client : ClientRow) (t : AccessDb) : Prop where
  row : ∃ row ∈ t.clients, KeepsClient Calls client row
  live : ∀ row ∈ s.clients, row.id = client.id → row.revokedAt = none

/-- A caller put together from rows that were live when they were read, after `s`. -/
structure LiveCaller (s : AccessDb) (caller : Caller) (t : AccessDb) : Prop
    extends LiveClient Calls s caller.client t where
  account : caller.account.id = caller.client.accountId
  opened : Opens Calls caller.account.id
  active : caller.account.suspendedAt = none
  plan : caller.plan.id = caller.account.planId
  slug : isPlanId caller.account.planId = true
  usable : ∃ plan, planFromRow caller.plan = .ok plan

/-- What the resolution of a header says about the stores it ran between. -/
def Resolution (authorization : Option String) (s : AccessDb) :
    Except ResolveFailure Caller → AccessDb → Prop
  | .ok caller, t =>
    LiveCaller Calls s caller t ∧ PresentsKey digests authorization caller.client
  | .error .unauthenticated, _ => ∀ row ∈ s.clients, ¬PresentsKey digests authorization row
  | .error .revoked, t => ∃ row ∈ t.clients, PresentsKey digests authorization row ∧
      Calls (.revokeClient row.id)
  | .error .suspended, t => ∃ client, LiveClient Calls s client t ∧
      PresentsKey digests authorization client ∧ Suspends Calls client.accountId
  | .error (.misconfigured _), _ => False

variable {digests Calls}

/-- The account of a client is there, under its own id, on a plan that is there. -/
theorem under_readAccount {α : Type} {post : α → AccessDb → Prop} {accountId : String}
    {f : Option AccountRow → Script AccessDb α} {s : AccessDb}
    (haccount : (s.ledger.accounts accountId).isSome)
    (h : ∀ t, (access digests Calls).Holds t → (access digests Calls).Le s t →
      ∀ account, account.id = accountId → Opens Calls accountId →
      (t.ledger.plans account.planId).isSome →
      (account.suspendedAt.isSome → Suspends Calls accountId) →
      (f (some account)).Under (access digests Calls) post t) :
    ((onMoney (getAccount accountId)).bind f).Under (access digests Calls) post s := by
  refine Under.read_bind fun t ht hst => ?_
  -- no account is lost, and the one found is sound
  obtain ⟨account, hrow⟩ := Option.isSome_iff_exists.mp (Later.account_isSome hst haccount)
  have hsound := Sound.accounts ht (accountId, account) hrow
  show (f (t.ledger.accounts accountId)).Under _ post t
  rw [hrow]
  exact h t ht hst account hsound.key hsound.opened hsound.plan hsound.suspended

/-- The plan of an account is there and usable. -/
theorem under_readPlan {α : Type} {post : α → AccessDb → Prop} {planId : String}
    {f : Option PlanRow → Script AccessDb α} {s : AccessDb}
    (hplan : (s.ledger.plans planId).isSome)
    (h : ∀ t, (access digests Calls).Holds t → (access digests Calls).Le s t →
      ∀ plan : PlanRow, plan.id = planId → isPlanId planId = true →
      (∃ usable, planFromRow plan = .ok usable) →
      (f (some plan)).Under (access digests Calls) post t) :
    ((onMoney (getPlan planId)).bind f).Under (access digests Calls) post s := by
  refine Under.read_bind fun t ht hst => ?_
  obtain ⟨plan, hrow⟩ := Option.isSome_iff_exists.mp (Later.plan_isSome hst hplan)
  have hsound := Sound.plans ht (planId, plan) hrow
  show (f (t.ledger.plans planId)).Under _ post t
  rw [hrow]
  exact h t ht hst plan hsound.key hsound.slug hsound.usable

/-- A client that was live stays the same client. -/
theorem LiveClient.later {s t u : AccessDb} {client : ClientRow} (h : LiveClient Calls s client t)
    (hle : Later Calls t u) : LiveClient Calls s client u := by
  obtain ⟨row, hrow, hkeep⟩ := h.row
  obtain ⟨row', hrow', hkeep'⟩ := hle.clients row hrow
  exact ⟨⟨row', hrow', hkeep.trans hkeep'⟩, h.live⟩

theorem LiveCaller.later {s t u : AccessDb} {caller : Caller} (h : LiveCaller Calls s caller t)
    (hle : Later Calls t u) : LiveCaller Calls s caller u :=
  { h with toLiveClient := h.toLiveClient.later hle }

/-- A client found unrevoked was so at every moment before. -/
theorem LiveClient.of_mem {s t : AccessDb} {client : ClientRow} (ht : Sound digests Calls t)
    (hst : Later Calls s t) (hmem : client ∈ t.clients) (hlive : client.revokedAt = none) :
    LiveClient Calls s client t := by
  refine ⟨⟨client, hmem, .refl client⟩, fun row hrow hid => ?_⟩
  obtain ⟨row', hrow', hkeep⟩ := hst.clients row hrow
  obtain rfl : row' = client := ht.distinct.eq_of_id hrow' hmem (hkeep.fields.1.trans hid)
  -- had it been revoked then, it would still be
  cases hrevoked : row.revokedAt with
  | none => rfl
  | some time =>
    have hstays := hkeep.stays (by rw [hrevoked]; rfl)
    rw [hlive, hrevoked] at hstays
    cases hstays

theorem resolvePlan_under {s₀ s : AccessDb} {client : ClientRow} {account : AccountRow}
    (hclient : LiveClient Calls s₀ client s) (haccount : account.id = client.accountId)
    (hopened : Opens Calls account.id) (hactive : account.suspendedAt = none)
    (hplan : (s.ledger.plans account.planId).isSome) :
    (resolvePlan client account).Under (access digests Calls) (fun answer t =>
      ∃ caller, answer = .ok caller ∧ caller.client = client ∧ LiveCaller Calls s₀ caller t) s := by
  refine under_readPlan hplan fun t _ hst plan hkey hslug husable => .done fun u _ htu => ?_
  exact ⟨⟨client, account, plan⟩, rfl, rfl, (hclient.later hst).later htu, haccount, hopened,
    hactive, hkey, hslug, husable⟩

theorem resolveAccount_under {s₀ s : AccessDb} {client : ClientRow}
    (hclient : LiveClient Calls s₀ client s)
    (haccount : (s.ledger.accounts client.accountId).isSome) :
    (resolveAccount client).Under (access digests Calls) (fun answer t =>
      (∃ caller, answer = .ok caller ∧ caller.client = client ∧ LiveCaller Calls s₀ caller t) ∨
      (answer = .error .suspended ∧ LiveClient Calls s₀ client t ∧
        Suspends Calls client.accountId)) s := by
  refine under_readAccount haccount fun t _ hst account hid hopened hplan hsuspended => ?_
  dsimp only
  split
  -- suspended: the account is not asked for its plan
  next hsome =>
    exact .done fun u _ htu => .inr ⟨rfl, (hclient.later hst).later htu, hsuspended hsome⟩
  next hnone =>
    exact (resolvePlan_under (hclient.later hst) hid (hid ▸ hopened)
      (Option.not_isSome_iff_eq_none.mp hnone) hplan).weaken fun _ _ _ => .inl

/-- The client of a key id at a moment, checked against the secret. -/
theorem checkClient_under {authorization : Option String} {key : ParsedKey}
    (hkey : (bearerFromRequest authorization).bind parseClientKey = some key) {s t : AccessDb}
    (ht : Sound digests Calls t) (hst : Later Calls s t) :
    (checkClient digests.sha256 key.secret (t.clients.find? (·.keyId == key.keyId))).Under
      (access digests Calls) (Resolution digests Calls authorization s) t := by
  -- a client that presents this key has its key id still
  have hsame {row : ClientRow} (hrow : row ∈ s.clients)
      (hpresents : PresentsKey digests authorization row) : ∃ row' ∈ t.clients,
        row'.keyId = key.keyId ∧ row'.secretHash = sha256Hex digests.sha256 key.secret := by
    obtain ⟨row', hrow', hkeep⟩ := hst.clients row hrow
    obtain ⟨key', hkey', hid, hhash⟩ := hpresents.of_keeps hkeep
    obtain rfl : key = key' := Option.some.inj (hkey.symm.trans hkey')
    exact ⟨row', hrow', hid, hhash⟩
  cases hfind : t.clients.find? (·.keyId == key.keyId) with
  -- no client has the key id, so nobody presents the key
  | none =>
    refine .done fun u _ _ row hrow hpresents => ?_
    obtain ⟨row', hrow', hid, -⟩ := hsame hrow hpresents
    have hne := List.find?_eq_none.mp hfind row' hrow'
    exact hne (beq_iff_eq.mpr hid)
  | some client =>
    have hmem := List.mem_of_find?_eq_some hfind
    have hid : client.keyId = key.keyId := by simpa using List.find?_some hfind
    have hsound := ht.clients client hmem
    unfold checkClient
    dsimp only
    split
    -- the one client of the key id has another secret
    next hwrong =>
      refine .done fun u _ _ row hrow hpresents => ?_
      obtain ⟨row', hrow', hid', hhash⟩ := hsame hrow hpresents
      obtain rfl := ht.distinct.eq_of_keyId hrow' hmem (hid'.trans hid.symm)
      rw [hhash, (constantTimeEqual_iff _ _).mpr rfl] at hwrong
      cases hwrong
    next hright =>
      have hhash : client.secretHash = sha256Hex digests.sha256 key.secret := by
        rw [Bool.not_eq_true', Bool.not_eq_false] at hright
        exact ((constantTimeEqual_iff _ _).mp hright).symm
      have hpresents : PresentsKey digests authorization client := ⟨key, hkey, hid, hhash⟩
      split
      -- the right key, and revoked
      next hrevoked =>
        refine .done fun u _ htu => ?_
        obtain ⟨row, hrow, hkeep⟩ := Later.clients htu client hmem
        exact ⟨row, hrow, hpresents.of_keeps hkeep, hkeep.fields.1 ▸ hsound.revoked hrevoked⟩
      -- the right key, and live: its account and plan are read later
      next hlive =>
        have hclient := LiveClient.of_mem ht hst hmem (Option.not_isSome_iff_eq_none.mp hlive)
        refine (resolveAccount_under hclient hsound.account).weaken fun answer u _ hanswer => ?_
        rcases hanswer with ⟨caller, rfl, rfl, hcaller⟩ | ⟨rfl, hlive, hsuspends⟩
        · exact ⟨hcaller, hpresents⟩
        · exact ⟨client, hlive, hpresents, hsuspends⟩

/-- The caller of a header, or why there is none. -/
theorem resolveClient_under (authorization : Option String) (s : AccessDb) :
    (resolveClient digests.sha256 authorization).Under (access digests Calls)
      (Resolution digests Calls authorization s) s := by
  unfold resolveClient
  split
  -- no key in the header, so nobody's
  next hnone =>
    refine .done fun t _ _ row _ hpresents => ?_
    obtain ⟨key, hkey, -⟩ := hpresents
    rw [hnone] at hkey
    cases hkey
  next key hkey => exact Under.read_bind fun t ht hst => checkClient_under hkey ht hst

variable (digests Calls) in
/-- What a route is answered by `requireCaller`. -/
def Authentication (authorization : Option String) (s : AccessDb)
    (answer : Except ApiError Caller) (t : AccessDb) : Prop :=
  ∃ resolved, answer = resolved.mapError ResolveFailure.response ∧
    Resolution digests Calls authorization s resolved t

theorem requireCaller_under (authorization : Option String) (s : AccessDb) :
    (requireCaller digests.sha256 authorization).Under (access digests Calls)
      (Authentication digests Calls authorization s) s :=
  Under.map (resolveClient_under authorization s)

/-- The caller of an answered request. -/
theorem Authentication.ok {authorization : Option String} {s t : AccessDb} {caller : Caller}
    (h : Authentication digests Calls authorization s (.ok caller) t) :
    LiveCaller Calls s caller t ∧ PresentsKey digests authorization caller.client := by
  obtain ⟨resolved, hanswer, hres⟩ := h
  cases resolved with
  | ok caller' =>
    obtain rfl := Except.ok.inj hanswer
    exact hres
  | error failure => cases hanswer

end under

end ControlPlane
