import ControlPlane.Model.Plans

/-!
# The catalog

`src/catalog.ts`: what an entry says about a model. The list itself is data; a lookup
is by public id.
-/

namespace ControlPlane

/-- Which door a model belongs to. -/
inductive Modality where
  | chat
  | image
  | tts
  | stt
  | voice
  | music
  | video
deriving Repr, DecidableEq

/-- Which bill the inference lands on. -/
inductive Billing where
  | workersAi
  | unifiedBilling
deriving Repr, DecidableEq

/-- The wire surface of a model that is not reached through the binding. -/
inductive ChatApi where
  | chat
  | responses
deriving Repr, DecidableEq

/-- What a unit price counts. -/
inductive MeterUnit where
  | request
  | audioMinute
  | kCharacters
deriving Repr, DecidableEq

/-- A meterable rate: a whole number of micro-USD per unit. -/
structure UnitPrice where
  microUsdPerUnit : Nat
  unit : MeterUnit
deriving Repr, DecidableEq

/-- A model of the catalog. -/
structure CatalogEntry where
  id : String
  upstream : String
  binding : Bool
  api : ChatApi
  modality : Modality
  billing : Billing
  tier : ModelTier
  /-- Null where no vendor ceiling was verified. -/
  maxOutputTokens : Option Int
  unitPrice : Option UnitPrice
deriving DecidableEq

/-- The models, in order. -/
abbrev Catalog := List CatalogEntry

/-- `findModel(id)`. -/
def Catalog.findModel (catalog : Catalog) (id : String) : Option CatalogEntry :=
  catalog.find? (·.id = id)

/-- The rate a request is charged at: an operator's override, or the entry's own. An
    override that is not a whole number of micro-USD prices nothing. -/
def resolveUnitPrice (entry : CatalogEntry) (override : Option Rat) : Option UnitPrice :=
  match override with
  | some micro =>
    if micro.den = 1 ∧ 0 ≤ micro then
      some ⟨micro.num.toNat, (entry.unitPrice.map (·.unit)).getD .request⟩
    else none
  | none => entry.unitPrice

/-- Price a number of units. -/
def priceUnits (units : Int) (unitPrice : UnitPrice) : Int × Int :=
  let n := max 0 units
  if n ≤ 0 then (0, 0) else (n * unitPrice.microUsdPerUnit, n)

end ControlPlane
