import ControlPlane.Model.Routes.Store
import ControlPlane.Spec.Grants
import Mathlib.Algebra.BigOperators.Group.Finset.Basic

/-!
# What redeeming store purchases grants

With both lab flags unset, a redeem is worth something exactly when it presents
a JWS for this app and a known pack that either verified against the pinned
Apple root or claims one of the Xcode environments (`RedeemRequest.purchase`).
The first such request of a transaction is credited, the later ones are not.

## Key results

- `run_redeem`: a redeem with the flags unset is one grant under its transaction
  id, or nothing
- `storeCredit_redeems`: the credit of any sequence of redeems
-/

namespace ControlPlane

open Script

/-- The credit granted under store keys. -/
def Db.storeCredit (db : Db) : Int :=
  Table.sumWhere (fun grant => JsString.startsWith grant.idempotencyKey "appstore:")
    (·.microUsd) db.creditGrants

/-- Two transactions never share an idempotency key. -/
theorem storeIdempotencyKey_inj {s t : String} (h : storeIdempotencyKey s = storeIdempotencyKey t) :
    s = t :=
  (String.append_right_inj "appstore:").mp h

/-- The keys of the store stand in a namespace of their own. -/
theorem startsWith_storeIdempotencyKey (t : String) :
    JsString.startsWith (storeIdempotencyKey t) "appstore:" = true :=
  JsString.startsWith_append _ _

/-! ## One request -/

/-- An authenticated redeem: the caller and its account row, the body, the clock
    and the grant id minted for it. -/
structure RedeemRequest where
  caller : RedeemCaller
  account : AccountRow
  raw : Json
  nowMs : Int
  grantId : String

/-- What a believed transaction buys: its id and its credit. -/
structure Purchase where
  transactionId : String
  microUsd : Int
deriving Repr, DecidableEq

/-- Both lab flags unset. -/
def unsetEnv : RedeemEnv := ⟨none, none⟩

section

variable {Key : Type} (platform : JwsPlatform Key)

/-- A JWS is believed when it verifies against the pinned root, or when it names
    an Xcode environment, whoever signed it. -/
def believed (signed : String) (nowMs : Int) (environment : Option String) : Bool :=
  (verifyAppleTransactionJws platform signed nowMs).isOk || isXcodeStoreEnvironment environment

/-- The JWS a request presents. -/
def RedeemRequest.signed (req : RedeemRequest) : String :=
  trimmedField req.raw "signed_transaction" "signedTransaction"

/-- The credit of a payload for this app. -/
def AppleTransactionPayload.purchase (payload : AppleTransactionPayload) : Option Purchase :=
  if payload.bundleId = appleBundleId then
    (creditMicroUsdForProduct payload.productId).map (⟨payload.transactionId, ·⟩)
  else none

/-- The purchase a request proves, if it does. -/
def RedeemRequest.purchase (req : RedeemRequest) : Option Purchase :=
  if 20 < JsString.length req.signed then
    (decodeAppleTransactionJws platform req.signed).bind fun payload =>
      if believed platform req.signed req.nowMs payload.environment then payload.purchase
      else none
  else none

/-- The database after the request. -/
def Db.redeem (db : Db) (req : RedeemRequest) : Db :=
  ((handleStoreRedeem platform unsetEnv req.nowMs req.caller req.account req.raw
    req.grantId).run db).2

/-- The database after a sequence of requests. -/
def Db.redeems (db : Db) (reqs : List RedeemRequest) : Db :=
  reqs.foldl (Db.redeem platform) db

/-- Without the flags, the route believes no more than `believed`. -/
theorem redeemSigned_believed {signed : String} {nowMs : Int} {payload : AppleTransactionPayload}
    (hdecode : decodeAppleTransactionJws platform signed = some payload)
    (h : believed platform signed nowMs payload.environment = true) :
    ∃ verified, redeemSigned platform unsetEnv nowMs signed = .ok ⟨payload.transactionId,
      payload.productId, payload.bundleId, payload.environment, verified⟩ := by
  unfold redeemSigned
  rw [hdecode]
  cases hverify : verifyAppleTransactionJws platform signed nowMs with
  | ok _ => exact ⟨.jws, rfl⟩
  -- not verified, so it is believed as one of Xcode
  | error reason =>
    have hxcode : isXcodeStoreEnvironment payload.environment = true := by
      simpa [believed, hverify, Except.isOk, Except.toBool] using h
    simp only [hxcode, if_true]
    exact ⟨.xcode, rfl⟩

/-- A transaction the platform does not believe is refused. -/
theorem redeemSigned_disbelieved {signed : String} {nowMs : Int}
    (h : ∀ payload, decodeAppleTransactionJws platform signed = some payload →
      believed platform signed nowMs payload.environment = false) :
    ∃ err, redeemSigned platform unsetEnv nowMs signed = .error err := by
  -- neither switch of the deployment is set
  have htrust : trustDecode unsetEnv = false := by decide
  have hsandbox : allowSandboxTrust unsetEnv = false := by decide
  unfold redeemSigned
  cases hdecode : decodeAppleTransactionJws platform signed with
  | none => exact ⟨_, rfl⟩
  | some payload =>
    have hnot := h payload hdecode
    cases hverify : verifyAppleTransactionJws platform signed nowMs with
    | ok _ => simp [believed, hverify, Except.isOk, Except.toBool] at hnot
    | error reason =>
      have hxcode : isXcodeStoreEnvironment payload.environment = false := by
        simpa [believed, hverify, Except.isOk, Except.toBool] using hnot
      simp only [hxcode, htrust, hsandbox, Bool.false_eq_true, if_false, Bool.and_false,
        Bool.false_and]
      split
      · exact ⟨_, rfl⟩
      · exact ⟨_, rfl⟩

/-- The common checks let a claim through exactly for this app and a pack. -/
theorem redeemCredit_ok_iff (claim : RedeemClaim) (micro : Int) :
    redeemCredit claim = .ok micro ↔
      claim.bundleId = appleBundleId ∧ creditMicroUsdForProduct claim.productId = some micro := by
  unfold redeemCredit
  split
  next h => simp [h]
  next h =>
    rw [not_not] at h
    split
    -- a product that is not known has no credit
    next hknown =>
      simp only [reduceCtorEq, h, true_and, false_iff]
      intro hcredit
      rw [isKnownStoreProduct_of_credit hcredit] at hknown
      cases hknown
    next =>
      split
      next hnone => simp [hnone]
      next m hsome => simp [h, hsome]

/-- Without the trust flag, the explicit fields are always refused. -/
theorem redeemFields_unset (raw : Json) : ∃ err, redeemFields unsetEnv raw = .error err := by
  have htrust : trustDecode unsetEnv = false := by decide
  unfold redeemFields
  simp only [htrust, if_true]
  split
  · exact ⟨_, rfl⟩
  · exact ⟨_, rfl⟩

/-- What the checks of a claim let through is the purchase of its payload. -/
theorem redeemCredit_payload (payload : AppleTransactionPayload) (verified : RedeemVerified) :
    match payload.purchase with
    | none => ∃ err, redeemCredit ⟨payload.transactionId, payload.productId, payload.bundleId,
        payload.environment, verified⟩ = .error err
    | some purchase => purchase.transactionId = payload.transactionId ∧
        redeemCredit ⟨payload.transactionId, payload.productId, payload.bundleId,
          payload.environment, verified⟩ = .ok purchase.microUsd := by
  have hiff := redeemCredit_ok_iff ⟨payload.transactionId, payload.productId, payload.bundleId,
    payload.environment, verified⟩
  cases hcredit : redeemCredit ⟨payload.transactionId, payload.productId, payload.bundleId,
      payload.environment, verified⟩ with
  -- credited: the bundle is ours and the product is known
  | ok micro =>
    obtain ⟨hbundle, hmicro⟩ := (hiff micro).mp hcredit
    simp only at hbundle hmicro
    simp [AppleTransactionPayload.purchase, hbundle, hmicro]
  | error err =>
    cases hpurchase : payload.purchase with
    | none => exact ⟨err, rfl⟩
    | some purchase =>
      unfold AppleTransactionPayload.purchase at hpurchase
      split at hpurchase
      next hbundle =>
        obtain ⟨micro, hmicro, -⟩ := Option.map_eq_some_iff.mp hpurchase
        rw [(hiff micro).mpr ⟨hbundle, hmicro⟩] at hcredit
        cases hcredit
      next => cases hpurchase

/-- The claim a body makes goes through exactly when it proves a purchase. -/
theorem redeemClaim_cases (req : RedeemRequest) :
    (req.purchase platform = none ∧
      ((∃ err, redeemClaim platform unsetEnv req.nowMs req.raw = .error err) ∨
        ∃ claim err, redeemClaim platform unsetEnv req.nowMs req.raw = .ok claim ∧
          redeemCredit claim = .error err)) ∨
    ∃ purchase claim, req.purchase platform = some purchase ∧
      redeemClaim platform unsetEnv req.nowMs req.raw = .ok claim ∧
      claim.transactionId = purchase.transactionId ∧
      redeemCredit claim = .ok purchase.microUsd := by
  have hroute : redeemClaim platform unsetEnv req.nowMs req.raw =
      if 20 < JsString.length req.signed then redeemSigned platform unsetEnv req.nowMs req.signed
      else redeemFields unsetEnv req.raw := rfl
  rw [hroute, RedeemRequest.purchase]
  -- a long text is a signed transaction, anything else the plain fields of a claim
  by_cases hlen : 20 < JsString.length req.signed
  · rw [if_pos hlen, if_pos hlen]
    by_cases hbelieved : ∃ payload, decodeAppleTransactionJws platform req.signed = some payload ∧
        believed platform req.signed req.nowMs payload.environment = true
    · obtain ⟨payload, hdecode, hbelieved⟩ := hbelieved
      obtain ⟨verified, hok⟩ := redeemSigned_believed platform hdecode hbelieved
      have hcredit := redeemCredit_payload payload verified
      simp only [hdecode, Option.bind_some, hbelieved, if_true, hok]
      cases hpurchase : payload.purchase with
      | none =>
        rw [hpurchase] at hcredit
        obtain ⟨err, herr⟩ := hcredit
        exact .inl ⟨rfl, .inr ⟨_, err, rfl, herr⟩⟩
      | some purchase =>
        rw [hpurchase] at hcredit
        exact .inr ⟨purchase, _, rfl, rfl, hcredit.1.symm, hcredit.2⟩
    · have hnot : ∀ payload, decodeAppleTransactionJws platform req.signed = some payload →
          believed platform req.signed req.nowMs payload.environment = false :=
        fun payload hdecode => by
          by_contra htrue
          exact hbelieved ⟨payload, hdecode, by simpa using htrue⟩
      refine .inl ⟨?_, .inl (redeemSigned_disbelieved platform hnot)⟩
      rw [Option.bind_eq_none_iff]
      intro payload hdecode
      simp [hnot payload hdecode]
  · rw [if_neg hlen, if_neg hlen]
    exact .inl ⟨rfl, .inl (redeemFields_unset req.raw)⟩

/-- A purchase comes from a payload for this app that verified or names an
    Xcode environment. -/
theorem payload_of_purchase {req : RedeemRequest} {purchase : Purchase}
    (h : req.purchase platform = some purchase) :
    ∃ payload, decodeAppleTransactionJws platform req.signed = some payload ∧
      payload.transactionId = purchase.transactionId ∧ payload.bundleId = appleBundleId ∧
      creditMicroUsdForProduct payload.productId = some purchase.microUsd ∧
      (verifyAppleTransactionJws platform req.signed req.nowMs = .ok () ∨
        isXcodeStoreEnvironment payload.environment = true) := by
  unfold RedeemRequest.purchase at h
  split at h
  next =>
    obtain ⟨payload, hdecode, hpayload⟩ := Option.bind_eq_some_iff.mp h
    split at hpayload
    next hbelieved =>
      unfold AppleTransactionPayload.purchase at hpayload
      split at hpayload
      next hbundle =>
        obtain ⟨micro, hmicro, rfl⟩ := Option.map_eq_some_iff.mp hpayload
        refine ⟨payload, hdecode, rfl, hbundle, hmicro, ?_⟩
        -- believed for its signature, or as one of Xcode
        rcases Bool.or_eq_true_iff.mp hbelieved with hverified | hxcode
        · cases hverify : verifyAppleTransactionJws platform req.signed req.nowMs with
          | ok _ => exact .inl rfl
          | error reason => simp [hverify, Except.isOk, Except.toBool] at hverified
        · exact .inr hxcode
      next => cases hpayload
    next => cases hpayload
  next => cases h

/-- A refused request changes nothing. -/
theorem redeem_of_none {req : RedeemRequest} (h : req.purchase platform = none) (db : Db) :
    db.redeem platform req = db := by
  unfold Db.redeem handleStoreRedeem
  rcases redeemClaim_cases platform req with ⟨-, ⟨err, herr⟩ | ⟨claim, err, hok, herr⟩⟩ | hsome
  · rw [herr]; rfl
  · rw [hok]; simp only [herr]; rfl
  · obtain ⟨purchase, claim, hpurchase, -⟩ := hsome
    rw [h] at hpurchase
    cases hpurchase

/-- A believed request is one grant under its transaction id. -/
theorem redeem_of_purchase {req : RedeemRequest} {purchase : Purchase}
    (h : req.purchase platform = some purchase) (db : Db) :
    ∃ args : GrantCreditArgs, args.id = req.grantId ∧ args.accountId = req.caller.accountId ∧
      args.microUsd = purchase.microUsd ∧
      args.idempotencyKey = storeIdempotencyKey purchase.transactionId ∧
      db.redeem platform req = ((grantCredit args).run db).2 := by
  rcases redeemClaim_cases platform req with ⟨hnone, -⟩ | ⟨p, claim, hp, hok, htid, hcredit⟩
  · rw [h] at hnone
    cases hnone
  -- the claim is the purchase's, and it was credited
  · obtain rfl := Option.some.inj (h.symm.trans hp)
    refine ⟨claim.grantArgs req.caller req.grantId purchase.microUsd, rfl, rfl, rfl, ?_, ?_⟩
    · simp only [RedeemClaim.grantArgs, htid]
    · unfold Db.redeem handleStoreRedeem
      rw [hok]
      simp [hcredit, redeemGrant, getAccount]

end

/-! ## A sequence of requests -/

/-- The credit of the first purchase of a transaction. -/
def firstCredit (purchases : List Purchase) (transactionId : String) : Int :=
  ((purchases.find? (·.transactionId == transactionId)).map (·.microUsd)).getD 0

/-- A repeated transaction does not change its first credit. -/
theorem firstCredit_append_of_mem {purchases : List Purchase} {t : String} (p : Purchase)
    (h : t ∈ purchases.map (·.transactionId)) :
    firstCredit (purchases ++ [p]) t = firstCredit purchases t := by
  obtain ⟨q, hq, hqt⟩ := List.mem_map.mp h
  have hsome : (purchases.find? (·.transactionId == t)).isSome := by
    rw [List.find?_isSome]
    exact ⟨q, hq, by simp [hqt]⟩
  obtain ⟨first, hfirst⟩ := Option.isSome_iff_exists.mp hsome
  simp [firstCredit, List.find?_append, hfirst]

/-- A new transaction is credited with what it buys. -/
theorem firstCredit_append_of_not_mem {purchases : List Purchase} (p : Purchase)
    (h : p.transactionId ∉ purchases.map (·.transactionId)) :
    firstCredit (purchases ++ [p]) p.transactionId = p.microUsd := by
  have hnone : purchases.find? (·.transactionId == p.transactionId) = none := by
    rw [List.find?_eq_none]
    intro q hq
    simp only [beq_iff_eq]
    exact fun hqt => h (List.mem_map.mpr ⟨q, hq, hqt⟩)
  simp [firstCredit, List.find?_append, hnone]

/-- The total over the distinct transactions of some purchases. -/
def transactionTotal (purchases : List Purchase) : Int :=
  ∑ t ∈ (purchases.map (·.transactionId)).toFinset, firstCredit purchases t

/-- One more purchase adds its credit, if its transaction is new. -/
theorem transactionTotal_append (purchases : List Purchase) (p : Purchase) :
    transactionTotal (purchases ++ [p]) = transactionTotal purchases +
      (if p.transactionId ∈ purchases.map (·.transactionId) then 0 else p.microUsd) := by
  have hset : ((purchases ++ [p]).map (·.transactionId)).toFinset =
      insert p.transactionId (purchases.map (·.transactionId)).toFinset := by
    ext t
    simp
  have hold : ∑ t ∈ (purchases.map (·.transactionId)).toFinset, firstCredit (purchases ++ [p]) t =
      transactionTotal purchases :=
    Finset.sum_congr rfl (fun t ht => firstCredit_append_of_mem p (List.mem_toFinset.mp ht))
  rw [transactionTotal, hset]
  split
  next hmem => rw [Finset.insert_eq_of_mem (List.mem_toFinset.mpr hmem), hold, add_zero]
  -- a new transaction adds its first purchase
  next hnew =>
    rw [Finset.sum_insert (by simpa using hnew), hold, firstCredit_append_of_not_mem p hnew,
      add_comm]

section

variable {Key : Type} (platform : JwsPlatform Key)

/-- The purchases a sequence of requests proves. -/
def purchases (reqs : List RedeemRequest) : List Purchase :=
  reqs.filterMap (·.purchase platform)

/-- What the callers of the route guarantee: authenticated accounts, freshly
    minted grant ids, and a namespace only this route writes to. -/
structure RedeemStart (db : Db) (reqs : List RedeemRequest) : Prop where
  accounts : ∀ req ∈ reqs, (db.accounts req.caller.accountId).isSome
  fresh : ∀ req ∈ reqs, ∀ grant ∈ db.creditGrants, grant.id ≠ req.grantId
  distinct : (reqs.map (·.grantId)).Nodup
  unused : ∀ grant ∈ db.creditGrants,
    JsString.startsWith grant.idempotencyKey "appstore:" = false

/-- The state after a sequence of redeems. -/
structure Redeemed (db₀ db : Db) (reqs : List RedeemRequest) : Prop where
  accounts : ∀ a, (db.accounts a).isSome = (db₀.accounts a).isSome
  ids : ∀ grant ∈ db.creditGrants, grant ∈ db₀.creditGrants ∨ grant.id ∈ reqs.map (·.grantId)
  keys : ∀ t, (∃ grant ∈ db.creditGrants, grant.idempotencyKey = storeIdempotencyKey t) ↔
    t ∈ (purchases platform reqs).map (·.transactionId)
  total : db.storeCredit = transactionTotal (purchases platform reqs)
  credit : ∀ a, db.credit a - db.granted a = db₀.credit a - db₀.granted a

/-- Before any request nothing has been redeemed. -/
theorem Redeemed.nil {db₀ : Db} (h : RedeemStart db₀ []) : Redeemed platform db₀ db₀ [] where
  accounts _ := rfl
  ids _ hgrant := .inl hgrant
  keys t := by
    simp only [purchases, List.filterMap_nil, List.map_nil, List.not_mem_nil, iff_false]
    rintro ⟨grant, hgrant, hkey⟩
    have := h.unused grant hgrant
    rw [hkey, startsWith_storeIdempotencyKey] at this
    cases this
  total := by
    simp only [Db.storeCredit, purchases, List.filterMap_nil, transactionTotal, List.map_nil,
      List.toFinset_nil, Finset.sum_empty]
    exact Table.sumWhere_eq_zero (fun grant hgrant hstarts => by
      rw [h.unused grant hgrant] at hstarts
      cases hstarts)
  credit _ := rfl

section snoc

variable {db₀ db : Db} {reqs : List RedeemRequest} {req : RedeemRequest} {purchase : Purchase}
  {args : GrantCreditArgs}

/-- The purchases of one request more are those before and its own. -/
theorem purchases_snoc : purchases platform (reqs ++ [req]) =
    purchases platform reqs ++ (req.purchase platform).toList := by
  rw [purchases, List.filterMap_append, List.filterMap_cons, List.filterMap_nil]
  cases req.purchase platform <;> rfl

variable {platform}

/-- No grant is of an id that was not there or asked for before. -/
theorem Redeemed.ids_snoc (h : Redeemed platform db₀ db reqs) (req : RedeemRequest) :
    ∀ grant ∈ db.creditGrants,
      grant ∈ db₀.creditGrants ∨ grant.id ∈ (reqs ++ [req]).map (·.grantId) :=
  fun grant hgrant => (h.ids grant hgrant).imp id (fun hid => by simp [List.mem_map.mp hid])

/-- A request that proves no purchase changes nothing. -/
theorem Redeemed.snoc_none (h : Redeemed platform db₀ db reqs)
    (hpurchase : req.purchase platform = none) : Redeemed platform db₀ db (reqs ++ [req]) := by
  have hpurchases : purchases platform (reqs ++ [req]) = purchases platform reqs := by
    rw [purchases_snoc, hpurchase]
    exact List.append_nil _
  exact ⟨h.accounts, h.ids_snoc req, hpurchases ▸ h.keys, hpurchases ▸ h.total, h.credit⟩

/-- Nor does one for a transaction that was presented before. -/
theorem Redeemed.snoc_again (h : Redeemed platform db₀ db reqs)
    (hpurchase : req.purchase platform = some purchase)
    (hold : purchase.transactionId ∈ (purchases platform reqs).map (·.transactionId)) :
    Redeemed platform db₀ db (reqs ++ [req]) := by
  -- the purchases are one more, the transactions are the same
  have hpurchases : purchases platform (reqs ++ [req]) =
      purchases platform reqs ++ [purchase] := by
    rw [purchases_snoc, hpurchase]
    rfl
  refine ⟨h.accounts, h.ids_snoc req, fun t => ?_, ?_, h.credit⟩
  · rw [hpurchases, h.keys t]
    simp only [List.map_append, List.map_cons, List.map_nil, List.mem_append,
      List.mem_singleton, iff_self_or]
    rintro rfl
    exact hold
  · rw [hpurchases, transactionTotal_append, if_pos hold, add_zero]
    exact h.total

/-- The key of a transaction that was credited before is taken. -/
theorem Redeemed.taken (h : Redeemed platform db₀ db reqs)
    (hkey : args.idempotencyKey = storeIdempotencyKey purchase.transactionId)
    (hold : purchase.transactionId ∈ (purchases platform reqs).map (·.transactionId)) :
    db.grantTaken args.row = true := by
  obtain ⟨grant, hgrant, hgrantkey⟩ := (h.keys _).mpr hold
  exact db.grantTaken_of_mem hgrant (hgrantkey.trans hkey.symm)

/-- Neither the id nor the key of a new transaction's grant is taken. -/
theorem Redeemed.free (h : Redeemed platform db₀ db reqs) (hstart : RedeemStart db₀ (reqs ++ [req]))
    (hid : args.id = req.grantId)
    (hkey : args.idempotencyKey = storeIdempotencyKey purchase.transactionId)
    (hnew : purchase.transactionId ∉ (purchases platform reqs).map (·.transactionId)) :
    db.grantTaken args.row = false := by
  rw [Db.grantTaken, List.any_eq_false]
  intro grant hgrant
  -- the grant's id is fresh, and no earlier request has it
  have hidne : grant.id ≠ req.grantId := by
    rcases h.ids grant hgrant with hmem | hmem
    · exact hstart.fresh req (by simp) grant hmem
    · have hnodup := hstart.distinct
      rw [List.map_append, List.nodup_append] at hnodup
      exact hnodup.2.2 _ hmem _ (by simp)
  -- its key would be that of a purchase made before
  have hkeyne : grant.idempotencyKey ≠ storeIdempotencyKey purchase.transactionId :=
    fun heq => hnew ((h.keys _).mp ⟨grant, hgrant, heq⟩)
  simp [Db.grantConflict, GrantCreditArgs.row, hid, hkey, hidne, hkeyne]

/-- The grant of a new transaction lands, with its credit. -/
theorem Redeemed.snoc_landed (h : Redeemed platform db₀ db reqs)
    (hpurchase : req.purchase platform = some purchase) (hid : args.id = req.grantId)
    (hmicro : args.microUsd = purchase.microUsd)
    (hkey : args.idempotencyKey = storeIdempotencyKey purchase.transactionId)
    (hsome : (db.accounts args.accountId).isSome)
    (hnew : purchase.transactionId ∉ (purchases platform reqs).map (·.transactionId)) :
    Redeemed platform db₀
      ((db.addGrant args.row).updateAccount args.accountId (.addCredit args.microUsd))
      (reqs ++ [req]) := by
  have hpurchases : purchases platform (reqs ++ [req]) =
      purchases platform reqs ++ [purchase] := by
    rw [purchases_snoc, hpurchase]
    rfl
  -- the grant lands under the transaction's key, which no grant has had
  have hrowkey : args.row.idempotencyKey = storeIdempotencyKey purchase.transactionId := hkey
  refine ⟨fun a => by simpa using h.accounts a, fun grant hgrant => ?_, fun t => ?_, ?_,
    fun a => ?_⟩
  · rcases List.mem_append.mp hgrant with hmem | hmem
    · exact h.ids_snoc req grant hmem
    · obtain rfl := List.mem_singleton.mp hmem
      exact .inr (by simp [GrantCreditArgs.row, hid])
  · rw [hpurchases, List.map_append, List.mem_append, ← h.keys t]
    simp only [Db.updateAccount_creditGrants, Db.addGrant, List.mem_append,
      List.mem_singleton, List.map_cons, List.map_nil]
    constructor
    · rintro ⟨grant, hmem | rfl, hgrantkey⟩
      · exact .inl ⟨grant, hmem, hgrantkey⟩
      · exact .inr (storeIdempotencyKey_inj (hrowkey.symm.trans hgrantkey)).symm
    · rintro (⟨grant, hmem, hgrantkey⟩ | rfl)
      · exact ⟨grant, .inl hmem, hgrantkey⟩
      · exact ⟨args.row, .inr rfl, hrowkey⟩
  · rw [hpurchases, transactionTotal_append, if_neg hnew, ← h.total]
    simp [Db.storeCredit, Db.addGrant, hkey, startsWith_storeIdempotencyKey,
      GrantCreditArgs.row, hmicro]
  -- credit and what was granted grow by the same amount
  · have hcredit := (db.addGrant args.row).credit_addCredit args.accountId a args.microUsd hsome
    rw [Db.granted_updateAccount, hcredit, db.granted_addGrant args.row a,
      ← h.credit a, Db.credit_addGrant]
    exact add_sub_add_right_eq_sub _ _ _

end snoc

/-- One more request: nothing, or one grant if its transaction is new. -/
theorem Redeemed.snoc {db₀ db : Db} {reqs : List RedeemRequest} {req : RedeemRequest}
    (h : Redeemed platform db₀ db reqs) (hstart : RedeemStart db₀ (reqs ++ [req])) :
    Redeemed platform db₀ (db.redeem platform req) (reqs ++ [req]) := by
  cases hpurchase : req.purchase platform with
  | none =>
    rw [redeem_of_none platform hpurchase]
    exact h.snoc_none hpurchase
  | some purchase =>
    obtain ⟨args, hid, hacct, hmicro, hkey, hrun⟩ := redeem_of_purchase platform hpurchase db
    rw [hrun]
    -- the transaction has been redeemed before, or this is its first time
    by_cases hold : purchase.transactionId ∈ (purchases platform reqs).map (·.transactionId)
    · rw [run_grantCredit_ignored (h.taken hkey hold)]
      exact h.snoc_again hpurchase hold
    · have hsome : (db.accounts args.accountId).isSome := by
        rw [hacct, h.accounts]
        exact hstart.accounts req (by simp)
      rw [(run_grantCredit_landed (h.free hstart hid hkey hold)).2]
      exact h.snoc_landed hpurchase hid hmicro hkey hsome hold

/-- Every sequence of requests leaves a store that has redeemed its purchases, each once. -/
theorem Redeemed.run {db₀ : Db} {reqs : List RedeemRequest} (hstart : RedeemStart db₀ reqs) :
    Redeemed platform db₀ (db₀.redeems platform reqs) reqs := by
  induction reqs using List.reverseRecOn with
  | nil => exact Redeemed.nil platform hstart
  | append_singleton reqs req ih =>
    have hstarted : RedeemStart db₀ reqs :=
      ⟨fun r hr => hstart.accounts r (by simp [hr]), fun r hr => hstart.fresh r (by simp [hr]),
        (List.nodup_append.mp (List.map_append ▸ hstart.distinct)).1, hstart.unused⟩
    rw [Db.redeems, List.foldl_append]
    exact (ih hstarted).snoc platform hstart

/-- With both flags unset, the credit under store keys is the sum, over the
    distinct transactions, of the credit of the first purchase presented for it;
    every purchase was presented in a JWS that verified or that names an Xcode
    environment; and account credit moves by its grants and nothing else. -/
theorem storeCredit_redeems {db₀ : Db} {reqs : List RedeemRequest}
    (hstart : RedeemStart db₀ reqs) :
    (db₀.redeems platform reqs).storeCredit =
      ∑ t ∈ ((purchases platform reqs).map (·.transactionId)).toFinset,
        firstCredit (purchases platform reqs) t ∧
    (∀ purchase ∈ purchases platform reqs, ∃ req ∈ reqs, ∃ payload,
      decodeAppleTransactionJws platform req.signed = some payload ∧
      payload.transactionId = purchase.transactionId ∧ payload.bundleId = appleBundleId ∧
      creditMicroUsdForProduct payload.productId = some purchase.microUsd ∧
      (verifyAppleTransactionJws platform req.signed req.nowMs = .ok () ∨
        isXcodeStoreEnvironment payload.environment = true)) ∧
    ∀ a, (db₀.redeems platform reqs).credit a - db₀.credit a =
      (db₀.redeems platform reqs).granted a - db₀.granted a := by
  have h := Redeemed.run platform hstart
  refine ⟨h.total, fun purchase hmem => ?_, fun a => by have := h.credit a; omega⟩
  obtain ⟨req, hreq, hpurchase⟩ := List.mem_filterMap.mp hmem
  exact ⟨req, hreq, payload_of_purchase platform hpurchase⟩

end

/-! ## A forged Xcode transaction -/

section

variable {Key : Type} {platform : JwsPlatform Key}

/-- A JWS whose payload carries the three ids decodes to them. -/
theorem decodeAppleTransactionJws_of_parts {jws a b c tid pid bid : String} {payload : Json}
    (hsplit : JsString.split jws '.' = [a, b, c]) (hjson : b64urlToJson platform b = some payload)
    (htid : payload.strField "transactionId" = some tid)
    (hpid : payload.strField "productId" = some pid)
    (hbid : payload.strField "bundleId" = some bid) (hne : ¬(tid = "" ∨ pid = "" ∨ bid = "")) :
    decodeAppleTransactionJws platform jws =
      some ⟨tid, pid, bid, payload.strField "environment"⟩ := by
  unfold decodeAppleTransactionJws
  rw [hsplit]
  simp only [hjson, htid, hpid, hbid, Option.orElse_some, if_neg hne]

/-- A JWS under another algorithm never verifies. -/
theorem verify_of_other_alg {jws a b c : String} {header : Json} {anchor : ParsedCertificate Key}
    (hanchor : platform.pinnedRootDer.bind platform.parseCertificate = some anchor)
    (hsplit : JsString.split jws '.' = [a, b, c]) (hjson : b64urlToJson platform a = some header)
    (halg : header.strField "alg" ≠ some "ES256") (nowMs : Int) :
    verifyAppleTransactionJws platform jws nowMs = .error .unsupportedAlg := by
  unfold verifyAppleTransactionJws verifyAppleTransactionJwsAgainstAnchor
  rw [hanchor]
  simp only [hsplit, hjson, if_pos halg]

/-- A decoded Xcode payload is a purchase, whoever signed it. -/
theorem purchase_of_xcode {req : RedeemRequest} {payload : AppleTransactionPayload}
    (hlen : 20 < JsString.length req.signed)
    (hdecode : decodeAppleTransactionJws platform req.signed = some payload)
    (hxcode : isXcodeStoreEnvironment payload.environment = true) :
    req.purchase platform = payload.purchase := by
  have hbelieved : believed platform req.signed req.nowMs payload.environment = true := by
    rw [believed, hxcode, Bool.or_true]
  rw [RedeemRequest.purchase, if_pos hlen, hdecode]
  simp only [Option.bind_some, hbelieved, if_true]

/-- A base64url text one character short of a multiple of four. -/
theorem b64urlToBytes_of_three {s : String} {n : Nat} (hb64 : isBase64Url s.toList = true)
    (hstd : s.toList.map (fun c => if c = '-' then '+' else if c = '_' then '/' else c) = s.toList)
    (hlen : s.toList.length = 4 * n + 3) :
    b64urlToBytes platform s = platform.atob (String.ofList (s.toList ++ ['='])) := by
  have hrem : s.toList.length % 4 = 3 := by omega
  unfold b64urlToBytes
  simp only [hb64, hstd, hrem, if_true]
  rfl

end

/-- The bytes of an ASCII text. -/
def asciiBytes (s : String) : Bytes := s.toList.map fun c => UInt8.ofNat c.toNat

/-- The header of the forged transaction: an empty object. -/
def forgedHeader : String := "e30"

/-- Fifty dollars of credit for this app, in the Xcode environment. -/
def forgedPayload : String :=
  "eyJ0cmFuc2FjdGlvbklkIjoiMjAwMCIsInByb2R1Y3RJZCI6Im9yZy5za3lwaHVzaW9uLnByaXNtLmNyZWRpdC41MCIsImJ1bmRsZUlkIjoib3JnLnNreXBodXNpb24ucHJpc20iLCJlbnZpcm9ubWVudCI6Ilhjb2RlIn0"

/-- A transaction nobody has signed, of the Xcode environment. -/
def forgedJws : String :=
  "e30.eyJ0cmFuc2FjdGlvbklkIjoiMjAwMCIsInByb2R1Y3RJZCI6Im9yZy5za3lwaHVzaW9uLnByaXNtLmNyZWRpdC41MCIsImJ1bmRsZUlkIjoib3JnLnNreXBodXNpb24ucHJpc20iLCJlbnZpcm9ubWVudCI6Ilhjb2RlIn0.x"

/-- The forged payload as JSON text. -/
def forgedJson : String :=
  "\x7b\"transactionId\":\"2000\",\"productId\":\"org.skyphusion.prism.credit.50\",\"bundleId\":\"org.skyphusion.prism\",\"environment\":\"Xcode\"\x7d"

/-- The forged payload as `JSON.parse` returns it. -/
def forgedClaims : Json :=
  .obj [("transactionId", .str "2000"), ("productId", .str "org.skyphusion.prism.credit.50"),
    ("bundleId", .str "org.skyphusion.prism"), ("environment", .str "Xcode")]

/-- A platform that reads the two forged segments as any base64 and JSON reader
    does, and trusts no signature. -/
def forgedPlatform : JwsPlatform Unit where
  atob s := if s = "e30=" then some [0x7b, 0x7d] else some (asciiBytes forgedJson)
  parseJson bytes := if bytes = [0x7b, 0x7d] then some (.obj []) else some forgedClaims
  encodeText := asciiBytes
  parseCertificate _ := some ⟨true, [], .p384, 0, 0, ()⟩
  verifyCertificateSignedBy _ _ := false
  derEcdsaToP1363 _ _ := none
  importsKey _ := true
  verifyEcdsa _ _ _ := false
  pinnedRootDer := some []

/-- The sample platform decodes the forged payload to its json. -/
theorem forgedPlatform_atob {s : String} (h : s ≠ "e30=") :
    forgedPlatform.atob s = some (asciiBytes forgedJson) := if_neg h

/-- And parses it to the forged claims. -/
theorem forgedPlatform_parseJson {bytes : Bytes} (h : bytes ≠ [0x7b, 0x7d]) :
    forgedPlatform.parseJson bytes = some forgedClaims := if_neg h

/-- A device key of an account presents the forged transaction. -/
def forgedRequest : RedeemRequest where
  caller := ⟨"acct", "client"⟩
  account := ⟨"acct", "free", none, none, 0, 0⟩
  raw := .obj [("signed_transaction", .str forgedJws)]
  nowMs := 0
  grantId := "grant_1"

/-- A store of one free account. -/
def redeemStore : Db :=
  .withAccount ⟨"free", "Free", 0, 0, 60, 1000, "[]"⟩ ⟨"acct", "free", none, none, 0, 0⟩

/-- It has redeemed nothing yet. -/
theorem redeemStore_start : RedeemStart redeemStore [forgedRequest] :=
  ⟨by simp [forgedRequest, redeemStore, Db.withAccount],
    by simp [redeemStore, Db.withAccount, Db.empty], by simp,
    by simp [redeemStore, Db.withAccount, Db.empty]⟩

/-- The request is read as carrying the forged transaction. -/
theorem forged_signed : forgedRequest.signed = forgedJws := by
  refine JsString.trim_eq (s := forgedJws) ?_
  unfold forgedJws
  rw [String.toList_ofList]
  decide +kernel

/-- Which is long enough to be looked at. -/
theorem forged_length : 20 < JsString.length forgedJws := by
  refine lt_of_lt_of_le ?_ (JsString.toList_length_le forgedJws)
  unfold forgedJws
  rw [String.toList_ofList]
  decide +kernel

/-- And has its three parts. -/
theorem forged_split : JsString.split forgedJws '.' = [forgedHeader, forgedPayload, "x"] := by
  refine JsString.split_eq ?_
  unfold forgedJws forgedHeader forgedPayload
  simp only [List.map_cons, List.map_nil]
  rw [String.toList_ofList, String.toList_ofList, String.toList_ofList, String.toList_ofList]
  decide +kernel

/-- The payload segment decodes to the forged claims. -/
theorem forged_payload : b64urlToJson forgedPlatform forgedPayload = some forgedClaims := by
  have hb64 : isBase64Url forgedPayload.toList = true := by
    unfold forgedPayload
    rw [String.toList_ofList]
    decide +kernel
  -- no character of it is one that base64url writes differently
  have hstd : forgedPayload.toList.map
      (fun c => if c = '-' then '+' else if c = '_' then '/' else c) = forgedPayload.toList := by
    unfold forgedPayload
    rw [String.toList_ofList]
    decide +kernel
  have hlen : forgedPayload.toList.length = 4 * 41 + 3 := by
    unfold forgedPayload
    rw [String.toList_ofList]
    decide +kernel
  have hatob : forgedPlatform.atob (String.ofList (forgedPayload.toList ++ ['='])) =
      some (asciiBytes forgedJson) := by
    refine forgedPlatform_atob (fun h => ?_)
    have hchars := congrArg String.toList h
    rw [String.toList_ofList, String.toList_ofList] at hchars
    have := congrArg List.length hchars
    rw [List.length_append, hlen] at this
    cases this
  have hparse : forgedPlatform.parseJson (asciiBytes forgedJson) = some forgedClaims := by
    refine forgedPlatform_parseJson ?_
    unfold asciiBytes forgedJson
    rw [String.toList_ofList]
    decide +kernel
  rw [b64urlToJson, b64urlToBytes_of_three hb64 hstd hlen, hatob]
  simp only [hparse]
  rfl

/-- The forged transaction buys fifty dollars. -/
theorem forged_purchase :
    forgedRequest.purchase forgedPlatform = some ⟨"2000", 50000000⟩ := by
  have hdecode : decodeAppleTransactionJws forgedPlatform forgedRequest.signed =
      some ⟨"2000", "org.skyphusion.prism.credit.50", "org.skyphusion.prism", some "Xcode"⟩ := by
    rw [forged_signed]
    exact decodeAppleTransactionJws_of_parts forged_split forged_payload rfl rfl rfl (by decide)
  have hxcode : isXcodeStoreEnvironment (some "Xcode") = true := by decide
  rw [purchase_of_xcode (forged_signed ▸ forged_length) hdecode hxcode]
  decide

/-- Fifty dollars of credit on a deployment without lab flags, and no JWS that
    ever verified. -/
theorem redeem_forged_xcode :
    RedeemStart redeemStore [forgedRequest] ∧
    (∀ req ∈ [forgedRequest],
      verifyAppleTransactionJws forgedPlatform req.signed req.nowMs ≠ .ok ()) ∧
    (redeemStore.redeems forgedPlatform [forgedRequest]).storeCredit = 50000000 := by
  refine ⟨redeemStore_start, ?_, ?_⟩
  · intro req hreq
    obtain rfl := List.mem_singleton.mp hreq
    have hheader : b64urlToJson forgedPlatform forgedHeader = some (.obj []) := rfl
    rw [forged_signed, verify_of_other_alg rfl forged_split hheader (by simp [Json.strField,
      Json.field])]
    simp
  · rw [(Redeemed.run forgedPlatform redeemStore_start).total]
    simp [purchases, forged_purchase, transactionTotal, firstCredit]

/-- Presented twice, the transaction is credited once. -/
theorem storeCredit_redeems_twice :
    let reqs := [forgedRequest, { forgedRequest with grantId := "grant_2" }]
    (redeemStore.redeems forgedPlatform reqs).storeCredit = 50000000 ∧
    (redeemStore.redeems forgedPlatform reqs).credit "acct" -
        redeemStore.credit "acct" =
      (redeemStore.redeems forgedPlatform reqs).granted "acct" - redeemStore.granted "acct" := by
  intro reqs
  have hstart : RedeemStart redeemStore reqs :=
    ⟨by simp [reqs, forgedRequest, redeemStore, Db.withAccount],
      by simp [redeemStore, Db.withAccount, Db.empty], by simp [reqs, forgedRequest],
      by simp [redeemStore, Db.withAccount, Db.empty]⟩
  have hpurchases : purchases forgedPlatform reqs = [⟨"2000", 50000000⟩, ⟨"2000", 50000000⟩] := by
    have hsnd : RedeemRequest.purchase forgedPlatform { forgedRequest with grantId := "grant_2" } =
        some ⟨"2000", 50000000⟩ := forged_purchase
    simp [purchases, reqs, forged_purchase, hsnd]
  obtain ⟨htotal, -, hcredit⟩ := storeCredit_redeems forgedPlatform hstart
  refine ⟨?_, hcredit "acct"⟩
  rw [htotal, hpurchases]
  decide

end ControlPlane
