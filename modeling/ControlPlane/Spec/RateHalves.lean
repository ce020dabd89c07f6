import ControlPlane.Model.Routes.AdminPrices

/-!
# The two halves of a rate row

One row holds a model's token rates and its unit rate, and the operator's write replaces
it whole. What the body does not name is stored as token rates of zero, which price every
token at nothing, or as no unit rate, which gives the operator's unit rate up.

## Key results

- `accepted_unitOnly` / `accepted_tokenOnly`: what a partial body stores
- `setModelPrice_halves_iff`: exactly when the other half keeps its meaning
-/

namespace ControlPlane

/-- The token rates that a model is priced at. -/
def PricedEntry.tokenRate (entry : PricedEntry) (prices : ModelPrices) : Option TokenPrice :=
  (entry.resolvePrice (prices.getModelPrice entry.id)).map (·.rate)

/-- The unit rate that a model is priced at. -/
def PricedEntry.unitRate (entry : PricedEntry) (prices : ModelPrices) : Option UnitPrice :=
  (entry.resolveUnitPrice (prices.getModelPrice entry.id)).map (·.rate)

/-- The body says nothing of token rates. -/
def UnitOnly (raw : Json) : Prop :=
  raw.field "input_micro_usd_per_mtok" = none ∧ raw.field "output_micro_usd_per_mtok" = none

/-- The body says nothing of a unit rate. -/
def TokenOnly (raw : Json) : Prop := raw.field "unit_micro_usd" = none

/-- Tokens are free: by the stored row, or by the catalog where none is stored. -/
def FreeTokens (entry : PricedEntry) : Option ModelPriceRow → Prop
  | none => entry.price.map (·.rate) = some ⟨0, 0⟩
  | some row => row.inputMicroUsdPerMTok = 0 ∧ row.outputMicroUsdPerMTok = 0

/-- A unit rate says what the catalog says: its rate, or, where the catalog has none,
    nothing that can be charged. -/
def SaysCatalog (entry : PricedEntry) (micro : Rat) : Prop :=
  match entry.unitPrice with
  | some base => micro = base.microUsdPerUnit
  | none => wholeMicroUsd micro = false

/-- A stored unit rate, if there is one, says what the catalog says. -/
def CatalogUnit (entry : PricedEntry) (override : Option ModelPriceRow) : Prop :=
  ∀ row micro, override = some row → row.unitMicroUsd = some micro → SaysCatalog entry micro

/-! ## What a partial body stores -/

section Accepted

variable {catalog : List PricedEntry} {raw : Json} {entry : PricedEntry} {token : Int × Int}
  {unit : Option Int}

/-- Without token rates, zeros are stored. -/
theorem accepted_unitOnly (h : setModelPriceBody catalog raw = .ok (entry, token, unit))
    (honly : UnitOnly raw) : token = (0, 0) := by
  obtain ⟨htoken, -⟩ := setModelPriceBody_ok h
  unfold tokenRates at htoken
  rw [honly.1, honly.2] at htoken
  cases htoken
  rfl

/-- Without a unit rate, none is stored. -/
theorem accepted_tokenOnly (h : setModelPriceBody catalog raw = .ok (entry, token, unit))
    (honly : TokenOnly raw) : unit = none := by
  obtain ⟨-, hunit⟩ := setModelPriceBody_ok h
  unfold unitRate at hunit
  rw [honly] at hunit
  cases hunit
  rfl

/-- The model's row after an accepted body. -/
theorem getModelPrice_setModelPrice
    (h : setModelPriceBody catalog raw = .ok (entry, token, unit)) (today : String)
    (prices : ModelPrices) :
    (handleSetModelPrice catalog raw today prices).2.getModelPrice entry.id =
      some (modelPriceRow raw entry token unit today) := by
  have hstored : (handleSetModelPrice catalog raw today prices).2 =
      prices.putModelPrice (modelPriceRow raw entry token unit today) := by
    rw [handleSetModelPrice, h]
  rw [hstored, ModelPrices.getModelPrice_putModelPrice]
  exact if_pos rfl

end Accepted

/-! ## The other half -/

/-- Token rates are free exactly where they resolve to zeros. -/
theorem freeTokens_iff (entry : PricedEntry) (override : Option ModelPriceRow) :
    (entry.resolvePrice override).map (·.rate) = some ⟨0, 0⟩ ↔ FreeTokens entry override := by
  cases override with
  | none => rfl
  | some row =>
    unfold PricedEntry.resolvePrice FreeTokens
    dsimp only
    -- both halves have to be zero, and zero is a usable rate
    constructor
    · intro h
      split at h
      · simpa using h
      · cases h
    · intro ⟨hin, hout⟩
      have hzero : (wholeMicroUsd 0 && wholeMicroUsd 0) = true := by decide
      rw [hin, hout, if_pos hzero]
      rfl

/-- An override resolves to the catalog's rate exactly where it says the same. -/
theorem saysCatalog_iff (entry : PricedEntry) (micro : Rat) :
    ControlPlane.resolveUnitPrice entry.toCatalogEntry (some micro) = entry.unitPrice ↔
      SaysCatalog entry micro := by
  unfold ControlPlane.resolveUnitPrice SaysCatalog
  dsimp only
  -- what is not a whole number of microdollars is no rate, so it cannot be the catalog's
  have hwhole : wholeMicroUsd micro = true ↔ micro.den = 1 ∧ 0 ≤ micro := by
    simp [wholeMicroUsd]
  cases hbase : entry.unitPrice with
  | none =>
    dsimp only
    rw [Bool.eq_false_iff, Ne, hwhole]
    split
    next h => simp [h]
    next h => simp [h]
  | some base =>
    dsimp only
    constructor
    · intro h
      split at h
      next hmicro =>
        have hrate := congrArg UnitPrice.microUsdPerUnit (Option.some.inj h)
        have hnum : micro = (micro.num : Rat) := (Rat.den_eq_one_iff micro).mp hmicro.1 |>.symm
        have hnonneg : 0 ≤ micro.num := Rat.num_nonneg.mpr hmicro.2
        rw [hnum, ← hrate]
        exact_mod_cast (Int.toNat_of_nonneg hnonneg).symm
      next => cases h
    · intro h
      rw [h, if_pos ⟨Rat.den_natCast _, Rat.natCast_nonneg⟩, Rat.num_natCast]
      rfl

/-- A unit rate is the catalog's exactly where it resolves to it. -/
theorem catalogUnit_iff (entry : PricedEntry) (override : Option ModelPriceRow) :
    (entry.resolveUnitPrice override).map (·.rate) = entry.unitPrice ↔
      CatalogUnit entry override := by
  have hnone : (entry.catalogUnitPrice).map (·.rate) = entry.unitPrice := by
    rw [PricedEntry.catalogUnitPrice, Option.map_map]
    exact Option.map_id'
  cases override with
  | none =>
    refine ⟨fun _ row micro hrow => ?_, fun _ => hnone⟩
    cases hrow
  | some row =>
    cases hunit : row.unitMicroUsd with
    | none =>
      unfold PricedEntry.resolveUnitPrice CatalogUnit
      rw [Option.bind_some, hunit]
      refine ⟨fun _ row' micro hrow hmicro => ?_, fun _ => hnone⟩
      cases hrow
      rw [hunit] at hmicro
      cases hmicro
    -- only a unit rate in the row can make a difference
    | some micro =>
      have hrate : (entry.resolveUnitPrice (some row)).map (·.rate) =
          ControlPlane.resolveUnitPrice entry.toCatalogEntry (some micro) := by
        unfold PricedEntry.resolveUnitPrice
        rw [Option.bind_some, hunit]
        show ((ControlPlane.resolveUnitPrice entry.toCatalogEntry (some micro)).map _).map _ = _
        rw [Option.map_map]
        exact Option.map_id'
      rw [hrate, saysCatalog_iff]
      constructor
      · intro h row' micro' hrow hmicro
        cases hrow
        rw [hunit] at hmicro
        cases hmicro
        exact h
      · intro h
        exact h row micro rfl hunit

/-- A body that sets one half of a model's rates leaves the other as it was exactly where
    that half was what the write makes of it: free tokens, or the catalog's unit rate. -/
theorem setModelPrice_halves_iff {catalog : List PricedEntry} {raw : Json} {entry : PricedEntry}
    {token : Int × Int} {unit : Option Int}
    (h : setModelPriceBody catalog raw = .ok (entry, token, unit)) (today : String)
    (prices : ModelPrices) :
    let after := (handleSetModelPrice catalog raw today prices).2
    (UnitOnly raw → (entry.tokenRate after = entry.tokenRate prices ↔
      FreeTokens entry (prices.getModelPrice entry.id))) ∧
    (TokenOnly raw → (entry.unitRate after = entry.unitRate prices ↔
      CatalogUnit entry (prices.getModelPrice entry.id))) := by
  intro after
  have hrow : after.getModelPrice entry.id = some (modelPriceRow raw entry token unit today) :=
    getModelPrice_setModelPrice h today prices
  constructor
  -- no token rates were sent, so zeros are stored
  · intro honly
    have hfree : entry.tokenRate after = some ⟨0, 0⟩ := by
      rw [PricedEntry.tokenRate, hrow, freeTokens_iff, accepted_unitOnly h honly]
      exact ⟨rfl, rfl⟩
    rw [hfree, eq_comm]
    exact freeTokens_iff entry _
  -- no unit rate was sent, so none is stored and the catalog's applies
  · intro honly
    have hcatalog : entry.unitRate after = entry.unitPrice := by
      rw [PricedEntry.unitRate, hrow, catalogUnit_iff, accepted_tokenOnly h honly]
      intro row micro hrow hmicro
      cases hrow
      cases hmicro
    rw [hcatalog, eq_comm]
    exact catalogUnit_iff entry _

/-- An operator's unit rate for a chat model, and nothing else. -/
def llama32Unit : Json :=
  .obj [("model_id", .str "@cf/meta/llama-3.2-3b-instruct"), ("unit_micro_usd", .num 500)]

/-- An operator's token rates for it, and nothing else. -/
def llama32Token : Json :=
  .obj [("model_id", .str "@cf/meta/llama-3.2-3b-instruct"),
    ("input_micro_usd_per_mtok", .num 40000), ("output_micro_usd_per_mtok", .num 60000)]

/-- The stored rates after the first. -/
def unitPrices : ModelPrices :=
  (handleSetModelPrice [llama32] llama32Unit "2026-08-05" .empty).2

/-- On the rates as they ship, a unit rate keeps the token rates iff they are free. -/
theorem setModelPrice_halves_llama32 :
    (UnitOnly llama32Unit → (llama32.tokenRate unitPrices = llama32.tokenRate .empty ↔
      FreeTokens llama32 (ModelPrices.empty.getModelPrice llama32.id))) ∧
    (TokenOnly llama32Unit → (llama32.unitRate unitPrices = llama32.unitRate .empty ↔
      CatalogUnit llama32 (ModelPrices.empty.getModelPrice llama32.id))) := by
  have hbody : setModelPriceBody [llama32] llama32Unit = .ok (llama32, (0, 0), some 500) := by
    decide +kernel
  exact setModelPrice_halves_iff hbody "2026-08-05" .empty

/-- Setting a unit rate makes a priced model's tokens free; setting token rates again loses
    the unit rate. -/
theorem setModelPrice_loses_half :
    UnitOnly llama32Unit ∧ llama32.tokenRate .empty = some ⟨50900, 335000⟩ ∧
      llama32.tokenRate unitPrices = some ⟨0, 0⟩ ∧
    TokenOnly llama32Token ∧ llama32.unitRate unitPrices = some ⟨500, .request⟩ ∧
      llama32.unitRate (handleSetModelPrice [llama32] llama32Token "2026-08-06" unitPrices).2 =
        none := by
  refine ⟨⟨rfl, rfl⟩, ?_, ?_, rfl, ?_, ?_⟩ <;> decide +kernel

end ControlPlane
