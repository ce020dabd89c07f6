import ControlPlane.ForStd.JsString
import ControlPlane.Model.Prices

/-!
# The model list

`src/routes/account.ts`, `GET /v1/models`, and the client's view of a catalog entry in
`src/catalog.ts`. The list is filtered by the caller's tiers and annotated with the rate of
each model and whether its door would serve it.
-/

namespace ControlPlane

/-! ## What a client may pick -/

/-- The modalities that have a door. -/
def DOOR_MODALITIES : List Modality := [.chat, .image, .tts, .stt, .music, .video, .voice]

/-- Whether the model accepts a reference image. -/
def imageAcceptsReference (modelId : String) : Bool :=
  if JsString.includes modelId "flux-2" then true
  else if JsString.startsWith modelId "google/nano-banana" then true
  else if JsString.startsWith modelId "openai/gpt-image" then true
  else if JsString.startsWith modelId "xai/grok-imagine-image" then true
  else false

/-- Hints for a picker: what an image or video model takes as input. -/
def capabilitiesFor (entry : CatalogEntry) : List String :=
  match entry.modality with
  | .image =>
    "text-to-image" :: if imageAcceptsReference entry.id then ["image-input"] else []
  | .video =>
    -- Hailuo makes no video without a first frame
    if JsString.startsWith entry.id "minimax/hailuo" then ["image-input", "image-input-required"]
    else
      "text-to-video" ::
        if JsString.startsWith entry.id "bytedance/seedance" ||
          JsString.startsWith entry.id "xai/grok-imagine-video" ||
          JsString.startsWith entry.id "runwayml/" || JsString.includes entry.id "-i2v" then
          ["image-input"]
        else []
  | _ => []

/-! ## The client's view of an entry -/

/-- Who a published rate comes from. -/
inductive PriceSource where
  | operator
  | cloudflare
deriving Repr, DecidableEq

/-- A rate as the list shows it. -/
structure Published (α : Type) extends Priced α where
  source : PriceSource
deriving DecidableEq

/-- An item of `GET /v1/models`. -/
structure PublicModel where
  id : String
  displayName : String
  modality : Modality
  billing : Billing
  tier : ModelTier
  streaming : Bool
  maxOutputTokens : Option Int
  spendable : Bool
  capabilities : List String
  price : Option (Published TokenPrice)
  unitPrice : Option (Published UnitPrice)
  publishedRates : List UnitRate

namespace PricedEntry

/-- Whether this plane runs the model right now. -/
def spendable (entry : PricedEntry) (tokenOverride : Option (Priced TokenPrice))
    (unitOverride : Option (Priced UnitPrice)) : Bool :=
  if !DOOR_MODALITIES.contains entry.modality then false
  else if entry.modality = .chat then (tokenOverride <|> entry.price).isSome
  else (unitOverride <|> entry.catalogUnitPrice).isSome

/-- What is published of a rate: the override, or else the catalog's. -/
def publish {α : Type} (override catalog : Option (Priced α)) : Option (Published α) :=
  (override <|> catalog).map fun price =>
    ⟨price, if override.isSome then .operator else .cloudflare⟩

/-- The client-facing projection. -/
def publicModel (entry : PricedEntry) (tokenOverride : Option (Priced TokenPrice))
    (unitOverride : Option (Priced UnitPrice)) : PublicModel where
  id := entry.id
  displayName := entry.displayName
  modality := entry.modality
  billing := entry.billing
  tier := entry.tier
  streaming := entry.streaming
  maxOutputTokens := entry.maxOutputTokens
  spendable := entry.spendable tokenOverride unitOverride
  capabilities := capabilitiesFor entry.toCatalogEntry
  price := publish tokenOverride entry.price
  unitPrice := publish unitOverride entry.catalogUnitPrice
  publishedRates := entry.publishedRates

end PricedEntry

/-! ## The list -/

/-- The entries a tier list entitles, in catalog order. -/
def modelsForTiers (catalog : List PricedEntry) (tiers : List ModelTier) : List PricedEntry :=
  catalog.filter fun entry => tiers.contains entry.tier

/-- The item of one entry: what `resolvePrice` and `resolveUnitPrice` give it is handed on
    as its overrides. -/
def listedModel (overrides : Overrides) (entry : PricedEntry) : PublicModel :=
  entry.publicModel (entry.resolvePrice (overrides entry.id))
    (entry.resolveUnitPrice (overrides entry.id))

/-- `handleModels`, for a caller whose plan was read. -/
def handleModels (catalog : List PricedEntry) (prices : ModelPrices) (plan : Plan) :
    List PublicModel :=
  (modelsForTiers catalog plan.allowedTiers).map
    (listedModel (Overrides.ofRows prices.listModelPrices))

end ControlPlane
