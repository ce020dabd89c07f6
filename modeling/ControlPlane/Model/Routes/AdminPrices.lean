import ControlPlane.Model.Prices

/-!
# The operator's rates

`src/routes/admin.ts`: `POST /admin/model-prices`, after the operator is authenticated and
the body is parsed.
-/

namespace ControlPlane

/-- The answer to a stored price. -/
structure SetModelPriceResponse where
  modelId : String
  inputMicroUsdPerMTok : Int
  outputMicroUsdPerMTok : Int
  unitMicroUsd : Option Int
  modality : Modality
  spendable : Bool
deriving Repr, DecidableEq

/-- A field that must be a whole number of micro-USD, not negative. -/
def wholeField (raw : Json) (name message : String) : Except ApiError Int :=
  match raw.intField name with
  | none => .error (invalidRequest message)
  | some value => if value < 0 then .error (invalidRequest message) else .ok value

/-- The token rates of a body: both or neither. -/
def tokenRates (raw : Json) : Except ApiError (Int × Int) := do
  if (raw.field "input_micro_usd_per_mtok").isSome ||
      (raw.field "output_micro_usd_per_mtok").isSome then
    let input ← wholeField raw "input_micro_usd_per_mtok"
      ("\"input_micro_usd_per_mtok\" must be a non-negative integer number of micro-USD per " ++
        "million tokens.")
    let output ← wholeField raw "output_micro_usd_per_mtok"
      ("\"output_micro_usd_per_mtok\" must be a non-negative integer number of micro-USD per " ++
        "million tokens.")
    pure (input, output)
  -- sent without token rates, both are stored as zero
  else pure (0, 0)

/-- The unit rate of a body. -/
def unitRate (raw : Json) : Except ApiError (Option Int) :=
  if (raw.field "unit_micro_usd").isSome then
    (wholeField raw "unit_micro_usd"
      "\"unit_micro_usd\" must be a non-negative integer micro-USD per unit.").map some
  else .ok none

/-- The catalog entry, the token rates and the unit rate of an accepted body. -/
def setModelPriceBody (catalog : List PricedEntry) (raw : Json) :
    Except ApiError (PricedEntry × (Int × Int) × Option Int) := do
  match (raw.strField "model_id").bind fun id => catalog.find? (·.id = id) with
  | none => .error (invalidRequest
      "\"model_id\" must name a model in this deployment's catalog.")
  | some entry =>
    if (raw.field "input_micro_usd_per_mtok").isNone &&
        (raw.field "output_micro_usd_per_mtok").isNone && (raw.field "unit_micro_usd").isNone then
      .error (invalidRequest ("Provide token rates (input_micro_usd_per_mtok + " ++
        "output_micro_usd_per_mtok) and/or unit_micro_usd."))
    else
      let token ← tokenRates raw
      let unit ← unitRate raw
      pure (entry, token, unit)

/-- The parts of an accepted body. -/
theorem setModelPriceBody_ok {catalog : List PricedEntry} {raw : Json} {entry : PricedEntry}
    {token : Int × Int} {unit : Option Int}
    (h : setModelPriceBody catalog raw = .ok (entry, token, unit)) :
    tokenRates raw = .ok token ∧ unitRate raw = .ok unit := by
  unfold setModelPriceBody at h
  split at h
  · cases h
  · split at h
    · cases h
    · obtain ⟨token', htoken, h⟩ := bind_ok h
      obtain ⟨unit', hunit, h⟩ := bind_ok h
      cases h
      exact ⟨htoken, hunit⟩

/-- The row an accepted body stores. -/
def modelPriceRow (raw : Json) (entry : PricedEntry) (token : Int × Int) (unit : Option Int)
    (today : String) : ModelPriceRow where
  modelId := entry.id
  inputMicroUsdPerMTok := token.1
  outputMicroUsdPerMTok := token.2
  unitMicroUsd := unit.map fun micro => (micro : Rat)
  pricedAt := today
  note := raw.strField "note"

/-- `handleSetModelPrice`. -/
def handleSetModelPrice (catalog : List PricedEntry) (raw : Json) (today : String)
    (prices : ModelPrices) : Except ApiError SetModelPriceResponse × ModelPrices :=
  match setModelPriceBody catalog raw with
  | .error err => (.error err, prices)
  | .ok (entry, token, unit) =>
    (.ok ⟨entry.id, token.1, token.2, unit, entry.modality, true⟩,
      prices.putModelPrice (modelPriceRow raw entry token unit today))

end ControlPlane
