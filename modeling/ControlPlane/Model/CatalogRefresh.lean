import ControlPlane.ForStd.JsString
import ControlPlane.Model.Prices

/-!
# Catalog refresh

`src/catalog-refresh.ts` and the rates of `src/aig-models.ts`: the token rates the gateway
lists for chat models, written over the stored ones that are not an operator's. Whose a row
is, its note says.
-/

namespace ControlPlane

/-! ## Gateway rates -/

/-- A cost in USD per token, finite and not negative, by its `toString`: the digits without
    their point, how many of them stand after it, and the exponent. -/
structure UsdPerToken where
  digits : Nat
  fracLength : Nat
  exponent : Int
deriving Repr, DecidableEq

/-- One row of `compat/models`. -/
structure GatewayModelRate where
  id : String
  costInUsdPerToken : UsdPerToken
  costOutUsdPerToken : UsdPerToken
deriving Repr, DecidableEq

/-- `Number.MAX_SAFE_INTEGER`. -/
def MAX_SAFE_INTEGER : Nat := 9007199254740991

/-- USD per token as whole micro-USD per million tokens, rounded up. -/
def microUsdPerMTokFromUsdPerToken (usdPerToken : UsdPerToken) : Option Nat :=
  if usdPerToken.digits = 0 then some 0
  else if 60 < usdPerToken.exponent.natAbs then none
  else
    -- per million tokens, in micro-USD: six digits and six more
    let exponent := usdPerToken.exponent - usdPerToken.fracLength + 12
    let scaled :=
      if 0 ≤ exponent then usdPerToken.digits * 10 ^ exponent.toNat
      else
        let divisor := 10 ^ (-exponent).toNat
        if usdPerToken.digits % divisor = 0 then usdPerToken.digits / divisor
        else usdPerToken.digits / divisor + 1
    if MAX_SAFE_INTEGER < scaled then none else some scaled

example : microUsdPerMTokFromUsdPerToken ⟨51, 1, -8⟩ = some 51000 := by decide

/-- The gateway ids a catalog id may be listed under. -/
def gatewayIdCandidates (catalogId : String) : List String :=
  [catalogId] ++
    (if JsString.startsWith catalogId "@cf/" then ["workers-ai/" ++ catalogId] else []) ++
    -- the gateway lists one vendor under two names
    (if JsString.startsWith catalogId "xai/" then
      let rest := String.ofList (catalogId.toList.drop 4)
      ["grok/" ++ rest, "xai/xai/" ++ rest]
    else []) ++
    (if JsString.startsWith catalogId "google/" then
      ["google-ai-studio/" ++ String.ofList (catalogId.toList.drop 7)]
    else [])

/-- The rate listed for a catalog id: its first candidate that is listed, by its first row. -/
def matchGatewayRate (catalogId : String) (models : List GatewayModelRate) :
    Option GatewayModelRate :=
  (gatewayIdCandidates catalogId).findSome? fun cand => models.find? (·.id = cand)

/-! ## Whose a row is -/

/-- The prefix of the notes the refresh writes. -/
def GATEWAY_COMPAT_NOTE_PREFIX : String := "gateway-compat"

/-- The note of a row an operator set by hand. -/
def isOperatorProtectedNote (note : Option String) : Bool :=
  match note with
  | none => false
  | some note =>
    if JsString.trim note = "" then false
    else !JsString.startsWith (JsString.trim note) GATEWAY_COMPAT_NOTE_PREFIX

/-! ## The refresh -/

/-- What a refresh is run with. -/
structure CatalogRefreshArgs where
  /-- What the gateway lists. -/
  models : List GatewayModelRate
  malformed : Nat
  dryRun : Bool
  force : Bool
  /-- The day of the run. -/
  pricedAt : String

/-- What a refresh does about a model. -/
inductive CatalogRefreshAction where
  | wouldUpdate
  | updated
  | unchanged
  | skippedOperator
  | unmatched
  | unusableRate
deriving Repr, DecidableEq

/-- The line of a model in the report. -/
structure CatalogRefreshRow where
  modelId : String
  gatewayId : Option String
  action : CatalogRefreshAction
  catalogInput : Option Rat
  catalogOutput : Option Rat
  gatewayInput : Option Nat
  gatewayOutput : Option Nat
  previousInput : Option Rat
  previousOutput : Option Rat
deriving DecidableEq

/-- What a refresh answers. -/
structure CatalogRefreshReport where
  dryRun : Bool
  force : Bool
  gatewayModels : Nat
  gatewayMalformed : Nat
  catalogChat : Nat
  rows : List CatalogRefreshRow

/-- A counter of the report: how many rows had this action. -/
def CatalogRefreshReport.count (report : CatalogRefreshReport) (action : CatalogRefreshAction) :
    Nat :=
  report.rows.countP (·.action = action)

/-- The counters of the loop. -/
structure CatalogRefreshCounts where
  wouldUpdate : Nat
  updated : Nat
  unchanged : Nat
  skippedOperator : Nat
  unmatched : Nat
  unusableRate : Nat
deriving Repr, DecidableEq

namespace CatalogRefreshCounts

/-- What each branch adds before it pushes its row. -/
def bump (counts : CatalogRefreshCounts) : CatalogRefreshAction → CatalogRefreshCounts
  | .wouldUpdate => { counts with wouldUpdate := counts.wouldUpdate + 1 }
  | .updated => { counts with updated := counts.updated + 1 }
  | .unchanged => { counts with unchanged := counts.unchanged + 1 }
  | .skippedOperator => { counts with skippedOperator := counts.skippedOperator + 1 }
  | .unmatched => { counts with unmatched := counts.unmatched + 1 }
  | .unusableRate => { counts with unusableRate := counts.unusableRate + 1 }

/-- The counter of an action. -/
def of (counts : CatalogRefreshCounts) : CatalogRefreshAction → Nat
  | .wouldUpdate => counts.wouldUpdate
  | .updated => counts.updated
  | .unchanged => counts.unchanged
  | .skippedOperator => counts.skippedOperator
  | .unmatched => counts.unmatched
  | .unusableRate => counts.unusableRate

/-- Every model is counted once. -/
def total (counts : CatalogRefreshCounts) : Nat :=
  counts.wouldUpdate + counts.updated + counts.unchanged + counts.skippedOperator +
    counts.unmatched + counts.unusableRate

end CatalogRefreshCounts

/-- The counters of the report, as the loop leaves them. -/
def CatalogRefreshReport.counts (report : CatalogRefreshReport) : CatalogRefreshCounts :=
  report.rows.foldl (fun counts row => counts.bump row.action) ⟨0, 0, 0, 0, 0, 0⟩

/-- The chat models. -/
def chatCatalogEntries (catalog : List PricedEntry) : List PricedEntry :=
  catalog.filter (·.modality = .chat)

section refreshEntry

variable (args : CatalogRefreshArgs) (entry : PricedEntry) (prev : Option ModelPriceRow)

/-- What is reported of one entry. -/
def refreshRow (gatewayId : Option String) (action : CatalogRefreshAction)
    (gatewayIn gatewayOut : Option Nat) : CatalogRefreshRow where
  modelId := entry.id
  gatewayId := gatewayId
  action := action
  catalogInput := entry.price.map (·.rate.inputMicroUsdPerMTok)
  catalogOutput := entry.price.map (·.rate.outputMicroUsdPerMTok)
  gatewayInput := gatewayIn
  gatewayOutput := gatewayOut
  previousInput := prev.map (·.inputMicroUsdPerMTok)
  previousOutput := prev.map (·.outputMicroUsdPerMTok)

/-- The stored rate, or the catalog's where none is stored, is the gateway's already. -/
def sameRate (gatewayIn gatewayOut : Nat) : Bool :=
  match prev with
  | some row =>
    row.inputMicroUsdPerMTok = (gatewayIn : Rat) && row.outputMicroUsdPerMTok = (gatewayOut : Rat)
  | none => entry.price.any fun price =>
      price.rate.inputMicroUsdPerMTok = (gatewayIn : Rat) &&
        price.rate.outputMicroUsdPerMTok = (gatewayOut : Rat)

/-- The body of the loop: the row reported, and the rate to store. -/
def refreshEntry : CatalogRefreshRow × Option ModelPriceRow :=
  match matchGatewayRate entry.id args.models with
  | none => (refreshRow entry prev none .unmatched none none, none)
  | some gw =>
    match microUsdPerMTokFromUsdPerToken gw.costInUsdPerToken,
        microUsdPerMTokFromUsdPerToken gw.costOutUsdPerToken with
    | some gatewayIn, some gatewayOut =>
      let row := fun action => refreshRow entry prev (some gw.id) action (some gatewayIn)
        (some gatewayOut)
      -- an operator's rate is left alone even where it is the gateway's
      if (prev.any fun row => isOperatorProtectedNote row.note) && !args.force then
        (row .skippedOperator, none)
      else if sameRate entry prev gatewayIn gatewayOut then (row .unchanged, none)
      -- only from here on would anything be written
      else if args.dryRun then (row .wouldUpdate, none)
      else
        (row .updated, some ⟨entry.id, gatewayIn, gatewayOut, prev.bind (·.unitMicroUsd),
          args.pricedAt, some (GATEWAY_COMPAT_NOTE_PREFIX ++ ":" ++ args.pricedAt)⟩)
    | gatewayIn, gatewayOut =>
      (refreshRow entry prev (some gw.id) .unusableRate gatewayIn gatewayOut, none)

end refreshEntry

/-- The loop over the chat entries, with the overrides it knows and the stored rates. -/
def refreshLoop (args : CatalogRefreshArgs) :
    List PricedEntry → Overrides → ModelPrices → List CatalogRefreshRow × ModelPrices
  | [], _, prices => ([], prices)
  | entry :: entries, existing, prices =>
    match refreshEntry args entry (existing entry.id) with
    | (row, none) =>
      let rest := refreshLoop args entries existing prices
      (row :: rest.1, rest.2)
    -- a row that was written is what a later entry of the same id finds
    | (row, some next) =>
      let rest := refreshLoop args entries (existing.set next) (prices.putModelPrice next)
      (row :: rest.1, rest.2)

/-- `runCatalogRefresh`, once the gateway answered. -/
def runCatalogRefresh (catalog : List PricedEntry) (args : CatalogRefreshArgs)
    (prices : ModelPrices) : CatalogRefreshReport × ModelPrices :=
  let chat := chatCatalogEntries catalog
  let done := refreshLoop args chat (Overrides.ofRows prices.listModelPrices) prices
  (⟨args.dryRun, args.force, args.models.length, args.malformed, chat.length, done.1⟩, done.2)

end ControlPlane
