import ControlPlane.ForStd.Run
import ControlPlane.Model.CatalogRefresh
import ControlPlane.Model.Routes.AdminPrices

/-!
# The operator's rate

Two writers share the stored rates: the operator, and the refresh from the gateway. A
refresh that is not forced leaves a row whose note protects it, and takes every other row of
a chat model for its own: a rate set without a note is overwritten as soon as the gateway
lists another one.

## Key results

- `refreshEntry_of_unlisted` / `refreshEntry_of_listed`: the body of the loop
- `refreshEntry_next`: what a refresh stores over a row
- `getModelPrice_runCatalogRefresh`: a refresh, seen from one model
- `operator_rate_kept`: when the operator's rate stays, over any run
-/

namespace ControlPlane

/-! ## The system -/

/-- What happens to the stored rates. -/
inductive PriceEvent where
  /-- `POST /admin/model-prices`, accepted or not. -/
  | setPrice (raw : Json) (today : String)
  | refresh (args : CatalogRefreshArgs)

/-- The rates after one event. -/
def PriceEvent.apply (catalog : List PricedEntry) (prices : ModelPrices) : PriceEvent → ModelPrices
  | .setPrice raw today => (handleSetModelPrice catalog raw today prices).2
  | .refresh args => (runCatalogRefresh catalog args prices).2

/-- The operator sets no rate for this model, and no refresh is forced. -/
def PriceEvent.Leaves (catalog : List PricedEntry) (modelId : String) : PriceEvent → Prop
  | .setPrice raw _ => ∀ entry token unit,
      setModelPriceBody catalog raw = .ok (entry, token, unit) → entry.id ≠ modelId
  | .refresh args => args.force = false

/-- A token rate is what `resolvePrice` returns for an entry. -/
def PricedEntry.RateIs (entry : PricedEntry) (rate : TokenPrice) (prices : ModelPrices) : Prop :=
  (entry.resolvePrice (prices.getModelPrice entry.id)).map (·.rate) = some rate

/-! ## What a refresh stores -/

/-- The rate the gateway lists for a model, where it can be used. -/
def gatewayRate (modelId : String) (models : List GatewayModelRate) : Option (Nat × Nat) := do
  let gw ← matchGatewayRate modelId models
  let gatewayIn ← microUsdPerMTokFromUsdPerToken gw.costInUsdPerToken
  let gatewayOut ← microUsdPerMTokFromUsdPerToken gw.costOutUsdPerToken
  pure (gatewayIn, gatewayOut)

/-- The row a refresh writes over another. -/
def gatewayRow (args : CatalogRefreshArgs) (rate : Nat × Nat) (row : ModelPriceRow) :
    ModelPriceRow :=
  ⟨row.modelId, rate.1, rate.2, row.unitMicroUsd, args.pricedAt,
    some (GATEWAY_COMPAT_NOTE_PREFIX ++ ":" ++ args.pricedAt)⟩

/-- A refresh stores a rate over a row: it is live, the row is its own to update, and the
    gateway lists another rate. -/
structure Overwrites (args : CatalogRefreshArgs) (row : ModelPriceRow) (rate : Nat × Nat) :
    Prop where
  live : args.dryRun = false
  owned : isOperatorProtectedNote row.note = false ∨ args.force = true
  listed : gatewayRate row.modelId args.models = some rate
  other : ¬ (row.inputMicroUsdPerMTok = rate.1 ∧ row.outputMicroUsdPerMTok = rate.2)

/-- Without a rate that can be used, an entry is passed over. -/
theorem refreshEntry_of_unlisted {args : CatalogRefreshArgs} {entry : PricedEntry}
    (prev : Option ModelPriceRow) (h : gatewayRate entry.id args.models = none) :
    ∃ gatewayId action gatewayIn gatewayOut,
      refreshEntry args entry prev =
        (refreshRow entry prev gatewayId action gatewayIn gatewayOut, none) ∧
      action ≠ .wouldUpdate ∧ action ≠ .updated := by
  unfold gatewayRate at h
  unfold refreshEntry
  cases hgw : matchGatewayRate entry.id args.models with
  | none => exact ⟨none, .unmatched, none, none, rfl, by decide, by decide⟩
  | some gw =>
    dsimp only
    -- matched, but one of the two costs is no rate
    cases hin : microUsdPerMTokFromUsdPerToken gw.costInUsdPerToken with
    | none => exact ⟨some gw.id, .unusableRate, none, _, rfl, by decide, by decide⟩
    | some gatewayIn =>
      cases hout : microUsdPerMTokFromUsdPerToken gw.costOutUsdPerToken with
      | none => exact ⟨some gw.id, .unusableRate, some gatewayIn, none, rfl, by decide, by decide⟩
      | some gatewayOut => simp [hgw, hin, hout] at h

/-- With one, the note, the stored rate and the mode of the run decide. -/
theorem refreshEntry_of_listed {args : CatalogRefreshArgs} {entry : PricedEntry}
    {rate : Nat × Nat} (prev : Option ModelPriceRow)
    (h : gatewayRate entry.id args.models = some rate) :
    ∃ gatewayId, refreshEntry args entry prev =
      if ((prev.any fun row => isOperatorProtectedNote row.note) && !args.force) = true then
        (refreshRow entry prev (some gatewayId) .skippedOperator (some rate.1) (some rate.2), none)
      else if sameRate entry prev rate.1 rate.2 = true then
        (refreshRow entry prev (some gatewayId) .unchanged (some rate.1) (some rate.2), none)
      else if args.dryRun = true then
        (refreshRow entry prev (some gatewayId) .wouldUpdate (some rate.1) (some rate.2), none)
      else
        (refreshRow entry prev (some gatewayId) .updated (some rate.1) (some rate.2),
          some ⟨entry.id, rate.1, rate.2, prev.bind (·.unitMicroUsd), args.pricedAt,
            some (GATEWAY_COMPAT_NOTE_PREFIX ++ ":" ++ args.pricedAt)⟩) := by
  unfold gatewayRate at h
  unfold refreshEntry
  -- the entry is listed and both of its rates can be read
  cases hgw : matchGatewayRate entry.id args.models with
  | none => simp [hgw] at h
  | some gw =>
    cases hin : microUsdPerMTokFromUsdPerToken gw.costInUsdPerToken with
    | none => simp [hgw, hin] at h
    | some gatewayIn =>
      cases hout : microUsdPerMTokFromUsdPerToken gw.costOutUsdPerToken with
      | none => simp [hgw, hin, hout] at h
      | some gatewayOut =>
        obtain rfl : (gatewayIn, gatewayOut) = rate := by
          simpa [hgw, hin, hout] using h
        simp only [hin, hout]
        exact ⟨gw.id, rfl⟩

/-- What a refresh stores over a row. -/
theorem refreshEntry_next {args : CatalogRefreshArgs} {entry : PricedEntry}
    {row next : ModelPriceRow} (hid : row.modelId = entry.id) :
    (refreshEntry args entry (some row)).2 = some next ↔
      ∃ rate, Overwrites args row rate ∧ next = gatewayRow args rate row := by
  cases hlisted : gatewayRate entry.id args.models with
  | none =>
    obtain ⟨gatewayId, action, gatewayIn, gatewayOut, hentry, -⟩ :=
      refreshEntry_of_unlisted (some row) hlisted
    rw [hentry]
    constructor
    · intro h
      cases h
    · rintro ⟨rate, hover, -⟩
      have := hover.listed
      rw [hid, hlisted] at this
      cases this
  | some rate =>
    obtain ⟨gatewayId, hentry⟩ := refreshEntry_of_listed (some row) hlisted
    rw [hentry]
    constructor
    · intro h
      split at h
      · cases h
      · -- what is left once no branch has skipped the entry is an overwrite
        rename_i howned
        split at h
        · cases h
        · rename_i hother
          split at h
          · cases h
          · rename_i hlive
            refine ⟨rate, ⟨by simpa using hlive, ?_, hid ▸ hlisted, by simpa [sameRate] using hother⟩,
              (Option.some.inj h).symm.trans (by rw [← hid]; rfl)⟩
            by_cases hforce : args.force = true
            · exact .inr hforce
            · left
              simpa [hforce] using howned
    · rintro ⟨rate', ⟨hlive, howned, hlisted', hother⟩, rfl⟩
      rw [hid, hlisted] at hlisted'
      obtain rfl := Option.some.inj hlisted'
      rw [if_neg, if_neg (by simpa [sameRate] using hother), if_neg (by simp [hlive]), ← hid]
      · rfl
      · rcases howned with hnote | hforce
        · simp [hnote]
        · simp [hforce]

/-- What is stored for an entry is a rate of its model. -/
theorem refreshEntry_modelId {args : CatalogRefreshArgs} {entry : PricedEntry}
    {prev : Option ModelPriceRow} {next : ModelPriceRow}
    (h : (refreshEntry args entry prev).2 = some next) : next.modelId = entry.id := by
  cases hlisted : gatewayRate entry.id args.models with
  | none =>
    obtain ⟨gatewayId, action, gatewayIn, gatewayOut, hentry, -⟩ :=
      refreshEntry_of_unlisted prev hlisted
    rw [hentry] at h
    cases h
  -- whatever the action, the row is the entry's own
  | some rate =>
    obtain ⟨gatewayId, hentry⟩ := refreshEntry_of_listed prev hlisted
    rw [hentry] at h
    repeat' split at h
    all_goals cases h
    rfl

/-- Nothing is stored over the gateway's own rate. -/
theorem not_overwrites_gatewayRow {args : CatalogRefreshArgs} {row : ModelPriceRow}
    {rate : Nat × Nat} (h : Overwrites args row rate) (rate' : Nat × Nat) :
    ¬ Overwrites args (gatewayRow args rate row) rate' := by
  intro h'
  have hsame : gatewayRate row.modelId args.models = some rate' := h'.listed
  rw [h.listed] at hsame
  obtain rfl := Option.some.inj hsame
  exact h'.other ⟨rfl, rfl⟩

/-- The overrides a refresh knows follow what it stores. -/
theorem set_getModelPrice (prices : ModelPrices) (next : ModelPriceRow) :
    Overrides.set prices.getModelPrice next = (prices.putModelPrice next).getModelPrice := by
  funext modelId
  rw [ModelPrices.getModelPrice_putModelPrice]
  rfl

section loop

variable {args : CatalogRefreshArgs} {entry : PricedEntry} {entries : List PricedEntry}
  {prices : ModelPrices}

/-- A step of the loop that stores nothing. -/
theorem refreshLoop_cons_none {existing : Overrides}
    (h : (refreshEntry args entry (existing entry.id)).2 = none) :
    refreshLoop args (entry :: entries) existing prices =
      ((refreshEntry args entry (existing entry.id)).1 ::
        (refreshLoop args entries existing prices).1,
        (refreshLoop args entries existing prices).2) := by
  rw [refreshLoop]
  cases hstep : refreshEntry args entry (existing entry.id) with
  | mk row next =>
    rw [hstep] at h
    obtain rfl : next = none := h
    rfl

/-- A step of the loop that stores a row. -/
theorem refreshLoop_cons_some {next : ModelPriceRow}
    (h : (refreshEntry args entry (prices.getModelPrice entry.id)).2 = some next) :
    refreshLoop args (entry :: entries) prices.getModelPrice prices =
      ((refreshEntry args entry (prices.getModelPrice entry.id)).1 ::
        (refreshLoop args entries (prices.putModelPrice next).getModelPrice
          (prices.putModelPrice next)).1,
        (refreshLoop args entries (prices.putModelPrice next).getModelPrice
          (prices.putModelPrice next)).2) := by
  rw [refreshLoop]
  cases hstep : refreshEntry args entry (prices.getModelPrice entry.id) with
  | mk row stored =>
    rw [hstep] at h
    obtain rfl : stored = some next := h
    dsimp only
    rw [set_getModelPrice]

end loop

/-- The loop passes a row over, or stores the gateway's rate over it once. -/
theorem getModelPrice_refreshLoop (args : CatalogRefreshArgs) (entries : List PricedEntry)
    {prices : ModelPrices} {row : ModelPriceRow}
    (hrow : prices.getModelPrice row.modelId = some row) :
    (((refreshLoop args entries prices.getModelPrice prices).2).getModelPrice row.modelId =
        some row ∧ (row.modelId ∈ entries.map (·.id) → ∀ rate, ¬ Overwrites args row rate)) ∨
    ∃ rate, row.modelId ∈ entries.map (·.id) ∧ Overwrites args row rate ∧
      ((refreshLoop args entries prices.getModelPrice prices).2).getModelPrice row.modelId =
        some (gatewayRow args rate row) := by
  induction entries generalizing prices row with
  | nil => exact .inl ⟨hrow, fun h => absurd h List.not_mem_nil⟩
  | cons entry entries ih =>
    rw [List.map_cons]
    -- an entry of this model may overwrite the row, an entry of another cannot
    by_cases hid : row.modelId = entry.id
    · cases hnext : (refreshEntry args entry (prices.getModelPrice entry.id)).2 with
      | none =>
        -- nothing stored means that nothing overwrites
        have hnone : ∀ rate, ¬ Overwrites args row rate := by
          intro rate hover
          have h := (refreshEntry_next hid).mpr ⟨rate, hover, rfl⟩
          rw [← hrow, hid, hnext] at h
          cases h
        rw [refreshLoop_cons_none hnext]
        rcases ih hrow with ⟨hkept, -⟩ | ⟨rate, -, hover, -⟩
        · exact .inl ⟨hkept, fun _ => hnone⟩
        · exact absurd hover (hnone rate)
      | some next =>
        rw [refreshLoop_cons_some hnext]
        rw [← hid, hrow] at hnext
        obtain ⟨rate, hover, rfl⟩ := (refreshEntry_next hid).mp hnext
        right
        refine ⟨rate, hid ▸ List.mem_cons_self, hover, ?_⟩
        -- the rest of the loop finds the gateway's own rate
        have hput : (prices.putModelPrice (gatewayRow args rate row)).getModelPrice
            (gatewayRow args rate row).modelId = some (gatewayRow args rate row) :=
          (ModelPrices.getModelPrice_putModelPrice ..).trans (if_pos rfl)
        rcases ih hput with ⟨hkept, -⟩ | ⟨rate', -, hover', -⟩
        · exact hkept
        · exact absurd hover' (not_overwrites_gatewayRow hover rate')
    · have hmem : row.modelId ∈ entry.id :: entries.map (·.id) ↔
          row.modelId ∈ entries.map (·.id) := by
        rw [List.mem_cons, or_iff_right hid]
      rw [hmem]
      cases hnext : (refreshEntry args entry (prices.getModelPrice entry.id)).2 with
      | none =>
        rw [refreshLoop_cons_none hnext]
        exact ih hrow
      | some next =>
        rw [refreshLoop_cons_some hnext]
        refine ih ?_
        have hother : row.modelId ≠ next.modelId := by
          rw [refreshEntry_modelId hnext]
          exact hid
        rw [ModelPrices.getModelPrice_putModelPrice, if_neg hother, hrow]

/-- A refresh, seen from one stored row. -/
theorem getModelPrice_runCatalogRefresh (catalog : List PricedEntry) (args : CatalogRefreshArgs)
    {prices : ModelPrices} {row : ModelPriceRow}
    (hrow : prices.getModelPrice row.modelId = some row) :
    ((runCatalogRefresh catalog args prices).2.getModelPrice row.modelId = some row ∧
      (row.modelId ∈ (chatCatalogEntries catalog).map (·.id) →
        ∀ rate, ¬ Overwrites args row rate)) ∨
    ∃ rate, row.modelId ∈ (chatCatalogEntries catalog).map (·.id) ∧ Overwrites args row rate ∧
      (runCatalogRefresh catalog args prices).2.getModelPrice row.modelId =
        some (gatewayRow args rate row) := by
  unfold runCatalogRefresh
  rw [Overrides.ofRows_listModelPrices]
  exact getModelPrice_refreshLoop args (chatCatalogEntries catalog) hrow

/-! ## The operator's rate over a run -/

/-- An event that does not overwrite a row of the operator's with this note and rate. -/
def PriceEvent.Keeps (catalog : List PricedEntry) (modelId : String) (note : Option String)
    (rate : TokenPrice) : PriceEvent → Prop
  | .setPrice _ _ => True
  | .refresh args => args.dryRun = true ∨ isOperatorProtectedNote note = true ∨
      modelId ∉ (chatCatalogEntries catalog).map (·.id) ∨
      ∀ listed, gatewayRate modelId args.models = some listed →
        (⟨listed.1, listed.2⟩ : TokenPrice) = rate

/-- The rate of a row that can be used is what `resolvePrice` returns. -/
theorem rateIs_of_row {entry : PricedEntry} {prices : ModelPrices} {row : ModelPriceRow}
    (hrow : prices.getModelPrice entry.id = some row)
    (hin : wholeMicroUsd row.inputMicroUsdPerMTok = true)
    (hout : wholeMicroUsd row.outputMicroUsdPerMTok = true) (rate : TokenPrice) :
    entry.RateIs rate prices ↔
      (⟨row.inputMicroUsdPerMTok, row.outputMicroUsdPerMTok⟩ : TokenPrice) = rate := by
  unfold PricedEntry.RateIs PricedEntry.resolvePrice
  rw [hrow]
  dsimp only
  rw [hin, hout]
  simp

theorem wholeMicroUsd_natCast (micro : Nat) : wholeMicroUsd (micro : Rat) = true := by
  simp [wholeMicroUsd]

theorem wholeMicroUsd_intCast {micro : Int} (h : 0 ≤ micro) : wholeMicroUsd (micro : Rat) = true := by
  simp [wholeMicroUsd, Rat.intCast_nonneg.mpr h]

/-- A rate set for another model, or none, leaves a row. -/
theorem getModelPrice_handleSetModelPrice {catalog : List PricedEntry} {raw : Json}
    {today modelId : String}
    (h : (PriceEvent.setPrice raw today).Leaves catalog modelId) (prices : ModelPrices) :
    (handleSetModelPrice catalog raw today prices).2.getModelPrice modelId =
      prices.getModelPrice modelId := by
  unfold handleSetModelPrice
  cases hbody : setModelPriceBody catalog raw with
  | error err => rfl
  | ok accepted =>
    obtain ⟨entry, token, unit⟩ := accepted
    have hother : modelId ≠ entry.id := (h entry token unit hbody).symm
    exact (ModelPrices.getModelPrice_putModelPrice ..).trans (if_neg hother)

section kept

variable {catalog : List PricedEntry} {entry : PricedEntry} {row : ModelPriceRow}

/-- A row an operator may have set for the model. -/
structure SetFor (entry : PricedEntry) (row : ModelPriceRow) : Prop where
  modelId : row.modelId = entry.id
  input : wholeMicroUsd row.inputMicroUsdPerMTok = true
  output : wholeMicroUsd row.outputMicroUsdPerMTok = true

/-- The token rate of a row. -/
def ModelPriceRow.tokenPrice (row : ModelPriceRow) : TokenPrice :=
  ⟨row.inputMicroUsdPerMTok, row.outputMicroUsdPerMTok⟩

/-- An event leaves the operator's row, or overwrites it with another rate. -/
theorem kept_step {prices : ModelPrices} (hset : SetFor entry row)
    (hrow : prices.getModelPrice entry.id = some row) {event : PriceEvent}
    (hleaves : event.Leaves catalog entry.id) :
    event.Keeps catalog entry.id row.note row.tokenPrice ∧
        (event.apply catalog prices).getModelPrice entry.id = some row ∨
      ¬ event.Keeps catalog entry.id row.note row.tokenPrice ∧
        ¬ entry.RateIs row.tokenPrice (event.apply catalog prices) := by
  cases event with
  | setPrice raw today =>
    exact .inl ⟨trivial, (getModelPrice_handleSetModelPrice hleaves prices).trans hrow⟩
  | refresh args =>
    have hforce : args.force = false := hleaves
    rw [← hset.modelId] at hrow ⊢
    rcases getModelPrice_runCatalogRefresh catalog args hrow with
      ⟨hkept, hnone⟩ | ⟨rate, hchat, hover, hstored⟩
    · refine .inl ⟨?_, hkept⟩
      -- live, unprotected, listed at another rate: that would have overwritten it
      by_contra hover
      simp only [PriceEvent.Keeps, not_or, not_forall, not_not] at hover
      obtain ⟨hlive, hnote, hchat, listed, hlisted, hother⟩ := hover
      refine hnone hchat listed ⟨by simpa using hlive, .inl (by simpa using hnote), hlisted, ?_⟩
      rintro ⟨hin, hout⟩
      exact hother (by rw [ModelPriceRow.tokenPrice, hin, hout])
    · right
      have hother : (⟨rate.1, rate.2⟩ : TokenPrice) ≠ row.tokenPrice := by
        intro heq
        injection heq with hin hout
        exact hover.other ⟨hin.symm, hout.symm⟩
      constructor
      · -- each way to be kept contradicts what the overwrite needed
        rintro (hdry | hnote | hnotChat | hsame)
        · rw [hover.live] at hdry
          cases hdry
        · rcases hover.owned with howned | hforced
          · rw [howned] at hnote
            cases hnote
          · rw [hforce] at hforced
            cases hforced
        · exact hnotChat hchat
        · exact hother (hsame rate hover.listed)
      · rw [rateIs_of_row (hset.modelId ▸ hstored) (wholeMicroUsd_natCast _)
          (wholeMicroUsd_natCast _)]
        exact hother

/-- The operator's rate stays over a run exactly when no event overwrites it. -/
theorem kept_run {prices : ModelPrices} (hset : SetFor entry row)
    (hrow : prices.getModelPrice entry.id = some row) {after : List PriceEvent}
    (hleaves : ∀ event ∈ after, event.Leaves catalog entry.id) :
    Run.EveryState (PriceEvent.apply catalog) (entry.RateIs row.tokenPrice) prices after ↔
      ∀ event ∈ after, event.Keeps catalog entry.id row.note row.tokenPrice := by
  have hrate : entry.RateIs row.tokenPrice prices :=
    (rateIs_of_row hrow hset.input hset.output _).mpr rfl
  -- from the front: each event keeps the row's rate or has lost it for good
  induction after generalizing prices with
  | nil => exact iff_of_true hrate fun event h => absurd h List.not_mem_nil
  | cons event after ih =>
    rw [List.forall_mem_cons] at hleaves ⊢
    rcases kept_step hset hrow hleaves.1 with ⟨hkeeps, hrow'⟩ | ⟨hover, hlost⟩
    · have hrest := ih hrow' hleaves.2 ((rateIs_of_row hrow' hset.input hset.output _).mpr rfl)
      constructor
      · exact fun h => ⟨hkeeps, hrest.mp h.2⟩
      · exact fun h => ⟨hrate, hrest.mpr h.2⟩
    · constructor
      · exact fun h => absurd h.2.head hlost
      · exact fun h => absurd h.1 hover

end kept

theorem wholeField_nonneg {raw : Json} {name message : String} {value : Int}
    (h : wholeField raw name message = .ok value) : 0 ≤ value := by
  unfold wholeField at h
  split at h
  · cases h
  · split at h
    · cases h
    · obtain rfl := Except.ok.inj h
      omega

theorem tokenRates_nonneg {raw : Json} {token : Int × Int} (h : tokenRates raw = .ok token) :
    0 ≤ token.1 ∧ 0 ≤ token.2 := by
  unfold tokenRates at h
  split at h
  · obtain ⟨input, hinput, h⟩ := bind_ok h
    obtain ⟨output, houtput, h⟩ := bind_ok h
    obtain rfl := Except.ok.inj h
    exact ⟨wholeField_nonneg hinput, wholeField_nonneg houtput⟩
  · obtain rfl := Except.ok.inj h
    exact ⟨le_rfl, le_rfl⟩

/-- An accepted body sets a rate that can be used. -/
theorem setFor_modelPriceRow {catalog : List PricedEntry} {raw : Json} {accepted : PricedEntry}
    {token : Int × Int} {unit : Option Int}
    (h : setModelPriceBody catalog raw = .ok (accepted, token, unit)) {entry : PricedEntry}
    (hid : entry.id = accepted.id) (today : String) :
    SetFor entry (modelPriceRow raw accepted token unit today) := by
  obtain ⟨hin, hout⟩ := tokenRates_nonneg (setModelPriceBody_ok h).1
  exact ⟨hid.symm, wholeMicroUsd_intCast hin, wholeMicroUsd_intCast hout⟩

/-- The token rate an operator's call answered with. -/
def SetModelPriceResponse.tokenPrice (response : SetModelPriceResponse) : TokenPrice :=
  ⟨response.inputMicroUsdPerMTok, response.outputMicroUsdPerMTok⟩

/-- Until an operator or a forced refresh changes it, a rate set under a note that protects it
    stays. Under any other note, or none, it stays exactly until a live refresh finds another
    rate listed for a chat model. -/
theorem operator_rate_kept (catalog : List PricedEntry) (prices : ModelPrices) (raw : Json)
    (today : String) {response : SetModelPriceResponse} {stored : ModelPrices}
    (hset : handleSetModelPrice catalog raw today prices = (.ok response, stored))
    {entry : PricedEntry} (hentry : entry.id = response.modelId) {after : List PriceEvent}
    (hleaves : ∀ event ∈ after, event.Leaves catalog entry.id) :
    (isOperatorProtectedNote (raw.strField "note") = true →
      Run.EveryState (PriceEvent.apply catalog) (entry.RateIs response.tokenPrice) stored after) ∧
    (Run.EveryState (PriceEvent.apply catalog) (entry.RateIs response.tokenPrice) stored after ↔
      ∀ event ∈ after,
        event.Keeps catalog entry.id (raw.strField "note") response.tokenPrice) := by
  unfold handleSetModelPrice at hset
  cases hbody : setModelPriceBody catalog raw with
  | error err =>
    rw [hbody] at hset
    cases hset
  | ok body =>
    obtain ⟨accepted, token, unit⟩ := body
    rw [hbody] at hset
    cases hset
    have hfor := setFor_modelPriceRow hbody hentry today
    have hrow : (prices.putModelPrice (modelPriceRow raw accepted token unit today)).getModelPrice
        entry.id = some (modelPriceRow raw accepted token unit today) :=
      (ModelPrices.getModelPrice_putModelPrice ..).trans (if_pos hentry)
    have hkept := kept_run hfor hrow hleaves
    refine ⟨fun hnote => hkept.mpr fun event _ => ?_, hkept⟩
    -- a protected note outlives every refresh that is not forced
    cases event with
    | setPrice raw' today' => trivial
    | refresh args => exact .inr (.inl hnote)

/-- An operator's rate for the model, with a note or without. -/
def llama32Rate (note : List (String × Json)) : Json :=
  .obj ([("model_id", .str "@cf/meta/llama-3.2-3b-instruct"),
    ("input_micro_usd_per_mtok", .num 40000), ("output_micro_usd_per_mtok", .num 60000)] ++ note)

/-- A live refresh that finds the model listed at 5.1e-8 and 3.4e-7 USD per token. -/
def llama32Refresh : PriceEvent :=
  .refresh ⟨[⟨"workers-ai/@cf/meta/llama-3.2-3b-instruct", ⟨51, 1, -8⟩, ⟨34, 1, -7⟩⟩], 0, false,
    false, "2026-08-05"⟩

/-- The rate under a note, as it is stored. -/
def notedPrices : ModelPrices :=
  (handleSetModelPrice [llama32] (llama32Rate [("note", .str "launch floor")]) "2026-08-04"
    ModelPrices.empty).2

/-- It stays through the refresh. -/
theorem operator_rate_kept_llama32 :
    Run.EveryState (PriceEvent.apply [llama32]) (llama32.RateIs ⟨40000, 60000⟩) notedPrices
      [llama32Refresh] := by
  have hset : handleSetModelPrice [llama32] (llama32Rate [("note", .str "launch floor")])
      "2026-08-04" ModelPrices.empty =
      (.ok ⟨llama32.id, 40000, 60000, none, .chat, true⟩, notedPrices) := rfl
  have hleaves : ∀ event ∈ [llama32Refresh], event.Leaves [llama32] llama32.id := by
    simp [PriceEvent.Leaves, llama32Refresh]
  exact (operator_rate_kept [llama32] ModelPrices.empty _ "2026-08-04" hset rfl hleaves).1
    (by decide +kernel)

/-- Without a note the rate is the gateway's after the refresh. -/
theorem llama32_overwritten :
    llama32.RateIs ⟨40000, 60000⟩ (handleSetModelPrice [llama32] (llama32Rate []) "2026-08-04"
        ModelPrices.empty).2 ∧
      ¬ llama32.RateIs ⟨40000, 60000⟩ (llama32Refresh.apply [llama32]
        (handleSetModelPrice [llama32] (llama32Rate []) "2026-08-04" ModelPrices.empty).2) := by
  unfold PricedEntry.RateIs
  decide +kernel

end ControlPlane
