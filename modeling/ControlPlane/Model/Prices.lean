import ControlPlane.Model.Catalog
import ControlPlane.Model.Http
import ControlPlane.Model.Meter
import Mathlib.Data.List.Sort
import Mathlib.Data.String.Basic

/-!
# Model prices

The `model_prices` table of `src/store-d1.ts`, the resolution of a rate in `src/meter.ts`,
and the price gates the doors of `src/routes` open with. A rate stored by an operator wins
over the catalog's, and one that is not a whole number of micro-USD is refused.
-/

namespace ControlPlane

/-! ## The table -/

/-- One override. A stored number is the rational its double denotes. -/
structure ModelPriceRow where
  modelId : String
  inputMicroUsdPerMTok : Rat
  outputMicroUsdPerMTok : Rat
  unitMicroUsd : Option Rat
  pricedAt : String
  note : Option String
deriving DecidableEq

/-- The table. `model_id` is its primary key. -/
structure ModelPrices where
  rows : List ModelPriceRow
  unique : (rows.map (·.modelId)).Nodup

namespace ModelPrices

/-- No rate was ever stored. -/
def empty : ModelPrices := ⟨[], List.nodup_nil⟩

/-- The stored price of a model. -/
def getModelPrice (prices : ModelPrices) (modelId : String) : Option ModelPriceRow :=
  prices.rows.find? (·.modelId = modelId)

/-- `ORDER BY model_id`. -/
def listModelPrices (prices : ModelPrices) : List ModelPriceRow :=
  prices.rows.insertionSort (·.modelId ≤ ·.modelId)

/-- The rows with one set or replaced. -/
def putRow (rows : List ModelPriceRow) (row : ModelPriceRow) : List ModelPriceRow :=
  if row.modelId ∈ rows.map (·.modelId) then
    rows.map fun stored => if stored.modelId = row.modelId then row else stored
  else rows ++ [row]

/-- Storing a price keeps one row a model. -/
theorem putRow_unique {rows : List ModelPriceRow} (h : (rows.map (·.modelId)).Nodup)
    (row : ModelPriceRow) : ((putRow rows row).map (·.modelId)).Nodup := by
  unfold putRow
  split
  -- replacing a row keeps the ids as they stand
  · have hids : (rows.map fun stored => if stored.modelId = row.modelId then row else stored).map
        (·.modelId) = rows.map (·.modelId) := by
      rw [List.map_map]
      refine List.map_congr_left fun stored _ => ?_
      dsimp only [Function.comp_apply]
      split
      · rename_i heq
        exact heq.symm
      · rfl
    rw [hids]
    exact h
  -- a new row has an id no other row has
  · rename_i hnew
    rw [List.map_append, List.map_singleton]
    exact List.nodup_append.mpr ⟨h, List.nodup_singleton _, by
      rintro id hid _ hmem rfl
      rw [List.mem_singleton.mp hmem] at hid
      exact hnew hid⟩

/-- Set or replace one override. -/
def putModelPrice (prices : ModelPrices) (row : ModelPriceRow) : ModelPrices :=
  ⟨putRow prices.rows row, putRow_unique prices.unique row⟩

/-- Two rows of one model are one row. -/
theorem eq_of_modelId {prices : ModelPrices} {row row' : ModelPriceRow} (h : row ∈ prices.rows)
    (h' : row' ∈ prices.rows) (hid : row.modelId = row'.modelId) : row = row' :=
  List.inj_on_of_nodup_map prices.unique h h' hid

/-- The row of a model is the one that carries its id. -/
theorem getModelPrice_eq_some {prices : ModelPrices} {modelId : String} {row : ModelPriceRow} :
    prices.getModelPrice modelId = some row ↔ row ∈ prices.rows ∧ row.modelId = modelId := by
  constructor
  · intro h
    exact ⟨List.mem_of_find?_eq_some h, by simpa using List.find?_some h⟩
  · rintro ⟨hmem, rfl⟩
    cases hfind : prices.getModelPrice row.modelId with
    | none => simpa using List.find?_eq_none.mp hfind row hmem
    | some found =>
      have hid : found.modelId = row.modelId := by simpa using List.find?_some hfind
      rw [eq_of_modelId (List.mem_of_find?_eq_some hfind) hmem hid]

/-- Storing a price replaces its model's row and no other. -/
theorem mem_putRow {rows : List ModelPriceRow} {row stored : ModelPriceRow} :
    stored ∈ putRow rows row ↔
      stored = row ∨ stored ∈ rows ∧ stored.modelId ≠ row.modelId := by
  unfold putRow
  split
  -- a stored row of the model is replaced where it stands
  case isTrue hold =>
    rw [List.mem_map]
    constructor
    · rintro ⟨old, hmem, rfl⟩
      split
      · exact .inl rfl
      · rename_i hne
        exact .inr ⟨hmem, hne⟩
    · rintro (rfl | ⟨hmem, hne⟩)
      · obtain ⟨old, hmem, hid⟩ := List.mem_map.mp hold
        exact ⟨old, hmem, if_pos hid⟩
      · exact ⟨stored, hmem, if_neg hne⟩
  -- no row of the model yet: the new one goes to the end
  case isFalse hnew =>
    rw [List.mem_append, List.mem_singleton]
    constructor
    · rintro (hmem | rfl)
      · refine .inr ⟨hmem, fun hid => hnew ?_⟩
        exact List.mem_map.mpr ⟨stored, hmem, hid⟩
      · exact .inl rfl
    · rintro (rfl | ⟨hmem, -⟩)
      · exact .inr rfl
      · exact .inl hmem

/-- A put changes the row of its model. -/
@[simp] theorem getModelPrice_putModelPrice (prices : ModelPrices) (row : ModelPriceRow)
    (modelId : String) : (prices.putModelPrice row).getModelPrice modelId =
      if modelId = row.modelId then some row else prices.getModelPrice modelId := by
  ext found
  rw [getModelPrice_eq_some, show found ∈ (prices.putModelPrice row).rows ↔ _ from mem_putRow]
  split
  · rename_i hid
    subst hid
    constructor
    · rintro ⟨rfl | ⟨-, hne⟩, hid⟩
      · rfl
      · exact absurd hid hne
    · rintro h
      obtain rfl := Option.some.inj h
      exact ⟨.inl rfl, rfl⟩
  · rename_i hne
    rw [getModelPrice_eq_some]
    constructor
    · rintro ⟨rfl | ⟨hmem, -⟩, hid⟩
      · exact absurd hid.symm hne
      · exact ⟨hmem, hid⟩
    · rintro ⟨hmem, rfl⟩
      exact ⟨.inr ⟨hmem, hne⟩, rfl⟩

end ModelPrices

/-! ## Overrides by model -/

/-- A `Map` of rows by their model. -/
abbrev Overrides := String → Option ModelPriceRow

/-- `map.set(row.model_id, row)`. -/
def Overrides.set (overrides : Overrides) (row : ModelPriceRow) : Overrides :=
  fun modelId => if modelId = row.modelId then some row else overrides modelId

/-- `new Map(rows.map((row) => [row.model_id, row]))`. -/
def Overrides.ofRows (rows : List ModelPriceRow) : Overrides :=
  rows.foldl Overrides.set fun _ => none

/-- The overrides hold the row of each model. -/
theorem Overrides.foldl_set {rows : List ModelPriceRow} (h : (rows.map (·.modelId)).Nodup)
    (overrides : Overrides) (modelId : String) (row : ModelPriceRow) :
    rows.foldl Overrides.set overrides modelId = some row ↔
      row ∈ rows ∧ row.modelId = modelId ∨
        modelId ∉ rows.map (·.modelId) ∧ overrides modelId = some row := by
  -- from the front: a later row would override, but the ids are distinct
  induction rows generalizing overrides with
  | nil => simp
  | cons first rows ih =>
    rw [List.map_cons, List.nodup_cons] at h
    rw [List.foldl_cons, ih h.2, Overrides.set]
    by_cases hfirst : modelId = first.modelId
    · subst hfirst
      have hother : ∀ row ∈ rows, row.modelId ≠ first.modelId := fun row hrow hid =>
        h.1 (List.mem_map.mpr ⟨row, hrow, hid⟩)
      simp only [if_true, List.mem_cons, List.map_cons]
      constructor
      · rintro (⟨hmem, hid⟩ | ⟨-, hrow⟩)
        · exact .inl ⟨.inr hmem, hid⟩
        · obtain rfl := Option.some.inj hrow
          exact .inl ⟨.inl rfl, rfl⟩
      · rintro (⟨rfl | hmem, hid⟩ | ⟨hnot, -⟩)
        · exact .inr ⟨h.1, rfl⟩
        · exact absurd hid (hother row hmem)
        · exact absurd (.inl trivial) hnot
    · simp only [if_neg hfirst, List.mem_cons, List.map_cons, not_or]
      constructor
      · rintro (⟨hmem, hid⟩ | ⟨hnot, hrow⟩)
        · exact .inl ⟨.inr hmem, hid⟩
        · exact .inr ⟨⟨hfirst, hnot⟩, hrow⟩
      · rintro (⟨rfl | hmem, hid⟩ | ⟨⟨-, hnot⟩, hrow⟩)
        · exact absurd hid.symm hfirst
        · exact .inl ⟨hmem, hid⟩
        · exact .inr ⟨hnot, hrow⟩

/-- The overrides listed for all models are those read for each. -/
@[simp] theorem Overrides.ofRows_listModelPrices (prices : ModelPrices) :
    Overrides.ofRows prices.listModelPrices = prices.getModelPrice := by
  have hperm : prices.listModelPrices.Perm prices.rows := List.perm_insertionSort _ _
  have hunique : (prices.listModelPrices.map (·.modelId)).Nodup :=
    (hperm.map _).nodup_iff.mpr prices.unique
  funext modelId
  ext row
  rw [Overrides.ofRows, Overrides.foldl_set hunique, ModelPrices.getModelPrice_eq_some,
    hperm.mem_iff]
  simp

/-! ## The rate of a model -/

/-- A rate with the day it was read or decided on. -/
structure Priced (α : Type) where
  rate : α
  pricedAt : String
deriving DecidableEq

/-- A published rate whose unit is not tokens: disclosure only. -/
structure UnitRate where
  unit : String
  usdPerUnit : Rat
deriving DecidableEq

/-- A catalog entry with what its price and its listing say. -/
structure PricedEntry extends CatalogEntry where
  displayName : String
  streaming : Bool
  price : Option (Priced TokenPrice)
  /-- The day the unit price was read, where there is one. -/
  unitPricedAt : String
  publishedRates : List UnitRate
deriving DecidableEq

/-- A chat model of `CATALOG`, with the rate its vendor publishes. -/
def llama32 : PricedEntry where
  id := "@cf/meta/llama-3.2-3b-instruct"
  upstream := "@cf/meta/llama-3.2-3b-instruct"
  binding := false
  api := .chat
  modality := .chat
  billing := .workersAi
  tier := .standard
  maxOutputTokens := some 4096
  unitPrice := none
  displayName := "Llama 3.2 3B"
  streaming := true
  price := some ⟨⟨50900, 335000⟩, "2026-08-04"⟩
  unitPricedAt := ""
  publishedRates := []

/-- A whole number of micro-USD. -/
def wholeMicroUsd (micro : Rat) : Bool := micro.den = 1 && 0 ≤ micro

namespace PricedEntry

/-- The catalog's unit price. -/
def catalogUnitPrice (entry : PricedEntry) : Option (Priced UnitPrice) :=
  entry.unitPrice.map (⟨·, entry.unitPricedAt⟩)

/-- The token rate a request is priced at, or none. -/
def resolvePrice (entry : PricedEntry) (override : Option ModelPriceRow) :
    Option (Priced TokenPrice) :=
  match override with
  | none => entry.price
  | some row =>
    if wholeMicroUsd row.inputMicroUsdPerMTok && wholeMicroUsd row.outputMicroUsdPerMTok then
      some ⟨⟨row.inputMicroUsdPerMTok, row.outputMicroUsdPerMTok⟩, row.pricedAt⟩
    else none

/-- The unit rate of a door that is not chat, or none. -/
def resolveUnitPrice (entry : PricedEntry) (override : Option ModelPriceRow) :
    Option (Priced UnitPrice) :=
  match override.bind fun row => row.unitMicroUsd.map ((·, row.pricedAt)) with
  | some (micro, pricedAt) =>
    (ControlPlane.resolveUnitPrice entry.toCatalogEntry (some micro)).map (⟨·, pricedAt⟩)
  | none => entry.catalogUnitPrice

end PricedEntry

/-! ## The price gates -/

namespace PricedEntry

/-- The price gate of `handleChatCompletions`. -/
def chatPriceGate (model : PricedEntry) (override : Option ModelPriceRow) :
    Except ApiError (Priced TokenPrice) :=
  match model.resolvePrice override with
  | none => .error ⟨.modelUnpriced, "Model \"" ++ model.id ++
      "\" has no per-token rate on this deployment, so it cannot be metered and is " ++
      "refused. An operator must set one before it can be spent against."⟩
  | some price => .ok price

/-- The price gate of the unit-metered doors. -/
def unitPriceGate (model : PricedEntry) (override : Option ModelPriceRow) :
    Except ApiError (Priced UnitPrice) :=
  match model.resolveUnitPrice override with
  | none => .error ⟨.modelUnpriced, "Model \"" ++ model.id ++
      "\" has no unit rate on this deployment, so it cannot be metered. " ++
      "An operator must set one (POST /admin/model-prices with unit_micro_usd) before it can " ++
      "be spent against."⟩
  | some unitPrice => .ok unitPrice

/-- The price gate of the live microphone. -/
def sttPriceGate (model : PricedEntry) (override : Option ModelPriceRow) :
    Except ApiError (Priced UnitPrice) :=
  match model.resolveUnitPrice override with
  | none => .error ⟨.modelUnpriced, "Model \"" ++ model.id ++
      "\" has no unit rate. Set unit_micro_usd via POST /admin/model-prices."⟩
  | some unitPrice => .ok unitPrice

end PricedEntry

end ControlPlane
