import ControlPlane.Model.Routes.Account

/-!
# The model list and the doors

`GET /v1/models` hands what `resolvePrice` and `resolveUnitPrice` return on as overrides, and
the client's view falls back to the catalog where there is none. A catalog rate is then
published as the operator's, and a refused override as the catalog rate behind it, while the
door answers `model_unpriced`.

## Key results

- `publish_iff`: what is published is the resolved rate, or a catalog rate it refuses
- `listed_iff`: when the list says what the door of a model does
-/

namespace ControlPlane

namespace PricedEntry

/-! ## What an override supplies -/

/-- The row supplies a token rate. -/
def SuppliesToken : Option ModelPriceRow → Prop
  | none => False
  | some row => wholeMicroUsd row.inputMicroUsdPerMTok = true ∧
      wholeMicroUsd row.outputMicroUsdPerMTok = true

/-- The row has a unit rate, usable or not. -/
def HasUnit : Option ModelPriceRow → Prop
  | none => False
  | some row => row.unitMicroUsd ≠ none

/-- The row supplies a unit rate. -/
def SuppliesUnit : Option ModelPriceRow → Prop
  | none => False
  | some row => ∃ micro, row.unitMicroUsd = some micro ∧ wholeMicroUsd micro = true

variable (entry : PricedEntry) (row : Option ModelPriceRow)

/-- The door of the model answers `model_unpriced`: the chat door for a chat model, the live
    microphone for a voice model, and the door of its modality for any other. -/
def Unpriced : Prop :=
  if entry.modality = .chat then ∃ message, entry.chatPriceGate row = .error ⟨.modelUnpriced, message⟩
  else if entry.modality = .voice then
    ∃ message, entry.sttPriceGate row = .error ⟨.modelUnpriced, message⟩
  else ∃ message, entry.unitPriceGate row = .error ⟨.modelUnpriced, message⟩

/-- What the list should say of a model: what its door does, the rate it meters with, and
    whose rate each published one is. -/
structure Truthful (item : PublicModel) : Prop where
  spendable : item.spendable = true ↔ ¬ entry.Unpriced row
  price : entry.modality = .chat →
    item.price.map (·.toPriced) = entry.resolvePrice row
  unitPrice : entry.modality ≠ .chat →
    item.unitPrice.map (·.toPriced) = entry.resolveUnitPrice row
  source : ∀ price ∈ item.price, price.source = .operator ↔ SuppliesToken row
  unitSource : ∀ price ∈ item.unitPrice, price.source = .operator ↔ SuppliesUnit row

/-- Where the list falls back on no rate of the catalog: each rate the catalog has is
    overridden by a stored row, and the one the model's own door meters with is so by a rate
    that can be used. -/
structure Overridden : Prop where
  token : entry.price ≠ none → row ≠ none ∧ (entry.modality = .chat → SuppliesToken row)
  unit : entry.unitPrice ≠ none → HasUnit row ∧ (entry.modality ≠ .chat → SuppliesUnit row)

end PricedEntry

/-! ## One published rate -/

/-- How a rate is resolved: the catalog's where there is no override, and else the override's
    or none. -/
structure Resolves {α : Type} (resolved catalog : Option (Priced α)) (overridden supplied : Prop) :
    Prop where
  absent : ¬ overridden → resolved = catalog
  present : overridden → (supplied ↔ resolved ≠ none)
  of_supplied : supplied → overridden

namespace Resolves

variable {α : Type} {resolved catalog : Option (Priced α)} {overridden supplied : Prop}

theorem publish_toPriced (resolved catalog : Option (Priced α)) :
    (PricedEntry.publish resolved catalog).map (·.toPriced) = (resolved <|> catalog) := by
  cases resolved with
  | some price => rfl
  | none => cases catalog <;> rfl

/-- The published rate is the resolved one, unless the catalog's stands in for a refused
    override. -/
theorem rate_iff (resolved catalog : Option (Priced α)) :
    (PricedEntry.publish resolved catalog).map (·.toPriced) = resolved ↔
      (catalog ≠ none → resolved ≠ none) := by
  rw [publish_toPriced]
  cases resolved with
  | some price => simp
  | none => cases catalog <;> simp

theorem spendable_iff (resolved catalog : Option (Priced α)) :
    ((resolved <|> catalog).isSome = true ↔ resolved ≠ none) ↔
      (catalog ≠ none → resolved ≠ none) := by
  cases resolved with
  | some price => simp
  | none => cases catalog <;> simp

/-- A published rate is called the operator's exactly when it is, unless it is the catalog's. -/
theorem source_iff (h : Resolves resolved catalog overridden supplied) :
    (∀ price ∈ PricedEntry.publish resolved catalog,
      price.source = .operator ↔ supplied) ↔ (catalog ≠ none → overridden) := by
  by_cases hover : overridden
  · -- a refused override is not called the operator's
    refine iff_of_true ?_ fun _ => hover
    rw [h.present hover]
    cases resolved with
    | some price => simp [PricedEntry.publish]
    | none => cases catalog <;> simp [PricedEntry.publish]
  · have hsupplied : ¬ supplied := fun hs => hover (h.of_supplied hs)
    rw [h.absent hover]
    cases catalog <;> simp [PricedEntry.publish, hover, hsupplied]

/-- The rate can be used exactly where an override supplies it, or where the catalog has one
    and there is no override. -/
theorem needed_iff (h : Resolves resolved catalog overridden supplied) :
    (catalog ≠ none → overridden) ∧ (catalog ≠ none → resolved ≠ none) ↔
      (catalog ≠ none → overridden ∧ supplied) := by
  constructor
  · intro hneeded hcatalog
    have hover := hneeded.1 hcatalog
    exact ⟨hover, (h.present hover).mpr (hneeded.2 hcatalog)⟩
  · intro hneeded
    refine ⟨fun hcatalog => (hneeded hcatalog).1, fun hcatalog => ?_⟩
    exact (h.present (hneeded hcatalog).1).mp (hneeded hcatalog).2

end Resolves

/-! ## One model -/

namespace PricedEntry

theorem resolvePrice_resolves (entry : PricedEntry) (row : Option ModelPriceRow) :
    Resolves (entry.resolvePrice row) entry.price (row ≠ none) (SuppliesToken row) := by
  cases row with
  | none =>
    refine ⟨fun _ => rfl, fun h => absurd rfl h, fun h => h.elim⟩
  | some row =>
    refine ⟨fun h => absurd (Option.some_ne_none row) h, fun _ => ?_, fun _ => Option.some_ne_none row⟩
    unfold SuppliesToken resolvePrice
    dsimp only
    -- a stored row decides, usable or not
    split
    · rename_i husable
      simpa using husable
    · rename_i hrefused
      simpa using hrefused

theorem hasUnit_of_some {row : ModelPriceRow} {micro : Rat} (h : row.unitMicroUsd = some micro) :
    HasUnit (some row) := by
  show row.unitMicroUsd ≠ none
  rw [h]
  exact Option.some_ne_none micro

theorem resolveUnitPrice_resolves (entry : PricedEntry) (row : Option ModelPriceRow) :
    Resolves (entry.resolveUnitPrice row) entry.catalogUnitPrice (HasUnit row)
      (SuppliesUnit row) := by
  cases row with
  | none => exact ⟨fun _ => rfl, fun h => h.elim, fun h => h.elim⟩
  | some row =>
    cases hunit : row.unitMicroUsd with
    -- a row that says nothing of units leaves the catalog's price
    | none =>
      have hresolved : entry.resolveUnitPrice (some row) = entry.catalogUnitPrice := by
        simp [resolveUnitPrice, hunit]
      refine ⟨fun _ => hresolved, fun h => absurd hunit h, ?_⟩
      rintro ⟨micro, hmicro, -⟩
      exact hasUnit_of_some hmicro
    | some micro =>
      have hhas := hasUnit_of_some hunit
      refine ⟨fun h => absurd hhas h, fun _ => ?_, fun _ => hhas⟩
      have hsupplies : SuppliesUnit (some row) ↔ wholeMicroUsd micro = true := by
        simp [SuppliesUnit, hunit]
      rw [hsupplies]
      -- a stored price that is no whole amount is no price at all
      by_cases husable : wholeMicroUsd micro = true
      · refine iff_of_true husable ?_
        have hwhole : micro.den = 1 ∧ 0 ≤ micro := by simpa [wholeMicroUsd] using husable
        simp [resolveUnitPrice, hunit, ControlPlane.resolveUnitPrice, hwhole]
      · refine iff_of_false husable ?_
        have hwhole : ¬ (micro.den = 1 ∧ 0 ≤ micro) := by
          simpa only [wholeMicroUsd, Bool.and_eq_true, decide_eq_true_eq] using husable
        simp [resolveUnitPrice, hunit, ControlPlane.resolveUnitPrice, hwhole]

theorem unpriced_iff (entry : PricedEntry) (row : Option ModelPriceRow) :
    entry.Unpriced row ↔
      if entry.modality = .chat then entry.resolvePrice row = none
      else entry.resolveUnitPrice row = none := by
  unfold Unpriced
  split
  · unfold chatPriceGate
    cases entry.resolvePrice row <;> simp
  -- a door of its own, but the same stored price
  · split
    · unfold sttPriceGate
      cases entry.resolveUnitPrice row <;> simp
    · unfold unitPriceGate
      cases entry.resolveUnitPrice row <;> simp

/-- Every modality has a door. -/
theorem door_modalities (modality : Modality) : DOOR_MODALITIES.contains modality = true := by
  cases modality <;> decide

theorem spendable_eq (entry : PricedEntry) (token : Option (Priced TokenPrice))
    (unit : Option (Priced UnitPrice)) : entry.spendable token unit =
      if entry.modality = .chat then (token <|> entry.price).isSome
      else (unit <|> entry.catalogUnitPrice).isSome := by
  rw [spendable, door_modalities]
  rfl

theorem catalogUnitPrice_ne_none (entry : PricedEntry) :
    entry.catalogUnitPrice ≠ none ↔ entry.unitPrice ≠ none := by
  simp [catalogUnitPrice]

/-- The model's door answers `model_unpriced` where the list calls it spendable, exactly where
    the catalog's rate stands in for a refused override. -/
theorem spendable_truthful_iff (entry : PricedEntry) (row : Option ModelPriceRow) :
    (entry.spendable (entry.resolvePrice row) (entry.resolveUnitPrice row) = true ↔
        ¬ entry.Unpriced row) ↔
      if entry.modality = .chat then entry.price ≠ none → entry.resolvePrice row ≠ none
      else entry.catalogUnitPrice ≠ none → entry.resolveUnitPrice row ≠ none := by
  rw [spendable_eq, unpriced_iff]
  split
  · exact Resolves.spendable_iff _ _
  · exact Resolves.spendable_iff _ _

/-- The list is truthful about a model exactly when it falls back on no rate of the
    catalog. -/
theorem truthful_iff (entry : PricedEntry) (row : Option ModelPriceRow) :
    entry.Truthful row (entry.publicModel (entry.resolvePrice row) (entry.resolveUnitPrice row)) ↔
      entry.Overridden row := by
  have htoken := entry.resolvePrice_resolves row
  have hunit := entry.resolveUnitPrice_resolves row
  have hspend := entry.spendable_truthful_iff row
  have hcatalog := entry.catalogUnitPrice_ne_none
  constructor
  · intro h
    have hsource := htoken.source_iff.mp h.source
    have hunitSource := hunit.source_iff.mp h.unitSource
    -- `spendable` needs the rate of the model's own modality
    have hneeded := hspend.mp h.spendable
    constructor
    · intro hprice
      refine ⟨hsource hprice, fun hchat => ?_⟩
      rw [if_pos hchat] at hneeded
      exact (htoken.needed_iff.mp ⟨hsource, hneeded⟩ hprice).2
    · intro hprice
      have hprice := hcatalog.mpr hprice
      refine ⟨hunitSource hprice, fun hchat => ?_⟩
      rw [if_neg hchat] at hneeded
      exact (hunit.needed_iff.mp ⟨hunitSource, hneeded⟩ hprice).2
  · intro h
    have hchatRate : entry.modality = .chat → entry.price ≠ none →
        entry.resolvePrice row ≠ none := fun hchat =>
      (htoken.needed_iff.mpr fun hprice => ⟨(h.token hprice).1, (h.token hprice).2 hchat⟩).2
    have hunitRate : entry.modality ≠ .chat → entry.catalogUnitPrice ≠ none →
        entry.resolveUnitPrice row ≠ none := fun hchat =>
      (hunit.needed_iff.mpr fun hprice =>
        ⟨(h.unit (hcatalog.mp hprice)).1, (h.unit (hcatalog.mp hprice)).2 hchat⟩).2
    refine ⟨hspend.mpr ?_, ?_, ?_, ?_, ?_⟩
    · split
      · rename_i hchat
        exact hchatRate hchat
      · rename_i hchat
        exact hunitRate hchat
    · exact fun hchat => (Resolves.rate_iff _ _).mpr (hchatRate hchat)
    · exact fun hchat => (Resolves.rate_iff _ _).mpr (hunitRate hchat)
    · exact htoken.source_iff.mpr fun hprice => (h.token hprice).1
    · exact hunit.source_iff.mpr fun hprice => (h.unit (hcatalog.mp hprice)).1

end PricedEntry

/-! ## The list -/

/-- `GET /v1/models` is truthful about the models it lists exactly where it falls back on no
    rate of the catalog. -/
theorem listed_iff (catalog : List PricedEntry) (prices : ModelPrices) (plan : Plan) :
    handleModels catalog prices plan = (modelsForTiers catalog plan.allowedTiers).map
        (listedModel prices.getModelPrice) ∧
      ∀ entry : PricedEntry,
        entry.Truthful (prices.getModelPrice entry.id) (listedModel prices.getModelPrice entry) ↔
          entry.Overridden (prices.getModelPrice entry.id) := by
  refine ⟨?_, fun entry => entry.truthful_iff _⟩
  rw [handleModels, Overrides.ofRows_listModelPrices]

/-- A stored rate that is refused. -/
def refusedRow : ModelPriceRow := ⟨llama32.id, -1, 335000, none, "2026-08-05", none⟩

/-- A table whose only row is refused. -/
def refusedPrices : ModelPrices := ModelPrices.empty.putModelPrice refusedRow

/-- Where nobody set a rate, the vendor's is published as the operator's. Where the stored
    one is refused, the model is called spendable. -/
theorem llama32_untruthful :
    ¬ llama32.Truthful (ModelPrices.empty.getModelPrice llama32.id)
        (listedModel ModelPrices.empty.getModelPrice llama32) ∧
      ¬ llama32.Truthful (refusedPrices.getModelPrice llama32.id)
        (listedModel refusedPrices.getModelPrice llama32) := by
  have hprice : llama32.price ≠ none := Option.some_ne_none _
  refine ⟨fun h => ?_, fun h => ?_⟩
  · exact ((llama32.truthful_iff _).mp h).token hprice |>.1 rfl
  · -- the row is there, and its input rate is negative
    have hrow : refusedPrices.getModelPrice llama32.id = some refusedRow :=
      (ModelPrices.getModelPrice_putModelPrice _ refusedRow llama32.id).trans (if_pos rfl)
    have hsupplies := ((llama32.truthful_iff _).mp h).token hprice |>.2 rfl
    rw [hrow] at hsupplies
    exact absurd hsupplies.1 (by decide)

end ControlPlane
