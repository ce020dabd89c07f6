import ControlPlane.Model.NonChatUpstream
import ControlPlane.Model.Upstream

/-!
# The non-chat runner

`src/nonchat-upstream.ts`: the dispatch of an image, speech, transcription, video or
music call to the REST path of Workers AI or to the binding, with or without the gateway.
-/

namespace ControlPlane

open JsString (startsWith)

/-- The runner needs what the chat runner needs. -/
abbrev NonChatRunnerDeps := GatewayRunnerDeps

/-- A Workers AI id. -/
def isCfModel (id : String) : Bool := startsWith id "@cf/"

/-- `[A-Za-z0-9._-]+` -/
def isPathSegment (segment : String) : Bool :=
  segment != "" && segment.toList.all fun c => c.isAlphanum || c == '.' || c == '_' || c == '-'

/-- The path of a Workers AI model, unless its id would rewrite the address. -/
def safeCfRunPath (modelId : String) : Option String :=
  if ["..", "//", "\\", "?", "#", "%"].any (JsString.includes modelId) then none
  else
    match JsString.split modelId '/' with
    | "@cf" :: vendor :: name :: more =>
      if (vendor :: name :: more).all isPathSegment then
        -- each segment is encoded, the slashes are not
        some (String.intercalate "/"
          (("@cf" :: vendor :: name :: more).map JsString.encodeURIComponent))
      else none
    | _ => none

/-- Only ids of the catalog leave the plane. -/
def assertCatalogUpstream (catalog : Catalog) (upstreamModel : String) : Bool :=
  match catalog.findModel upstreamModel with
  | some entry => entry.upstream == upstreamModel || entry.id == upstreamModel
  | none => false

/-- FLUX.2 takes a multipart form. -/
def isFlux2Model (modelId : String) : Bool := startsWith modelId "@cf/black-forest-labs/flux-2"

/-- Image models that the gateway cannot proxy. -/
def isBindingOnlyImageModel (modelId : String) : Bool :=
  isFlux2Model modelId || modelId == "@cf/leonardo/phoenix-1.0" ||
    modelId == "@cf/lykon/dreamshaper-8-lcm" ||
    modelId == "@cf/stabilityai/stable-diffusion-xl-base-1.0"

/-- The form of a FLUX.2 call: its reference images by number. -/
structure Flux2Form where
  prompt : String
  width : String
  height : String
  images : List (Nat × List UInt8)

/-- The body of a non-chat call. -/
inductive NonChatBody where
  | json (params : Json)
  | multipart (form : Flux2Form)

/-- A size of the form. -/
def formSize (params : Json) (name : String) : String :=
  match params.field name with
  | some (.num value) => jsNumber value
  | _ => "1024"

/-- The reference image of a number. One that is not base64 is skipped. -/
def formImage (params : Json) (i : Nat) : Option (Nat × List UInt8) :=
  match (params.strField ("input_image_" ++ toString i)).bind nonempty with
  | none => none
  | some image =>
    match base64ToBytes (stripDataUrlToBase64 image) with
    | .error _ => none
    | .ok bytes => some (i, bytes)

/-- The form a FLUX.2 model is sent. -/
def toFlux2MultipartParams (params : Json) : Flux2Form where
  prompt := (params.strField "prompt").getD ""
  width := formSize params "width"
  height := formSize params "height"
  images := (List.range 4).filterMap (formImage params)

/-! ## Dispatch -/

/-- The calls of a run, and its result. -/
structure NonChatRun where
  calls : List (UpstreamCall NonChatBody)
  result : NonChatRunResult

/-- What the outside makes of a call. -/
abbrev NonChatAnswers := UpstreamCall NonChatBody → NonChatRunResult

/-- One call, and what comes of it. -/
def runCall (answers : NonChatAnswers) (call : UpstreamCall NonChatBody) : NonChatRun :=
  ⟨[call], answers call⟩

/-- A refusal before any call. -/
def refusedRun (result : NonChatRunResult) : NonChatRun := ⟨[], result⟩

/-- The headers of a REST call. -/
def restHeaders (deps : NonChatRunnerDeps) (request : NonChatRunRequest) : List (String × String) :=
  [("authorization", "Bearer " ++ request.auth.value),
    ("cf-aig-gateway-id", deps.gatewayId),
    ("cf-aig-collect-log-payload", "false"),
    ("cf-aig-collect-log", logSwitch deps.collectLog),
    ("cf-aig-metadata", stringifyMetadata request.metadata),
    ("content-type", "application/json"),
    ("accept", "application/json")]

/-- Run a Workers AI model over HTTP, by a path that is safe. -/
def runViaRest (deps : NonChatRunnerDeps) (answers : NonChatAnswers) (request : NonChatRunRequest) :
    NonChatRun :=
  match safeCfRunPath request.upstreamModel with
  | none => refusedRun (.upstreamError none ("Refusing REST run for model id that is not a safe " ++
      "Workers AI path: " ++ JsString.slice request.upstreamModel 80))
  | some pathModel =>
    runCall answers (.http
      (CF_API_HOST ++ "/client/v4/accounts/" ++ deps.accountId ++ "/ai/run/" ++ pathModel)
      (restHeaders deps request) (.json request.params))

/-- A binding call. The bypass passes no gateway option. -/
def runNonChatBinding (deps : NonChatRunnerDeps) (answers : NonChatAnswers) (upstreamModel : String)
    (body : NonChatBody) (bypassGateway : Bool) : NonChatRun :=
  runCall answers (.binding upstreamModel body
    (if bypassGateway then none else some (bindingGatewayOptions deps.gatewayId)))

/-- The request with what the catalog says of its model. -/
def NonChatRunRequest.normalized (request : NonChatRunRequest) (entry : CatalogEntry) :
    NonChatRunRequest :=
  { request with
    upstreamModel := entry.upstream
    billing := entry.billing
    modality := entry.modality }

/-- The dispatch of a model the catalog knows. -/
def dispatchNonChat (deps : NonChatRunnerDeps) (answers : NonChatAnswers)
    (request : NonChatRunRequest) : NonChatRun :=
  -- images that are sent as a form or answered as a stream
  if request.modality = .image ∧ isBindingOnlyImageModel request.upstreamModel then
    if !deps.ai then
      refusedRun (.unavailable ("This image model requires the Worker AI binding " ++
        "(multipart/stream path). Add [ai] binding = \"AI\" to wrangler config."))
    else
      let body := if isFlux2Model request.upstreamModel then
          .multipart (toFlux2MultipartParams request.params)
        else .json request.params
      runNonChatBinding deps answers request.upstreamModel body true
  -- Workers AI over http
  else if isCfModel request.upstreamModel then runViaRest deps answers request
  else if !deps.ai then
    refusedRun (.unavailable ("Unified Billing non-chat models require the Worker AI binding. " ++
      "Add [ai] binding = \"AI\" to wrangler config, or use a Workers AI (@cf/) model."))
  else runNonChatBinding deps answers request.upstreamModel (.json request.params) false

/-- Run a model of the catalog, and no other. -/
def nonChatRunnerFor (catalog : Catalog) (deps : NonChatRunnerDeps) (answers : NonChatAnswers)
    (request : NonChatRunRequest) : NonChatRun :=
  match catalog.findModel request.upstreamModel with
  | some entry =>
    -- the path is rebuilt from the catalog's own string
    if assertCatalogUpstream catalog request.upstreamModel then
      dispatchNonChat deps answers (request.normalized entry)
    else
      refusedRun (.upstreamError none ("Model id is not in the catalog allowlist: " ++
        JsString.slice request.upstreamModel 80))
  | none =>
    refusedRun (.upstreamError none ("Model id is not in the catalog allowlist: " ++
      JsString.slice request.upstreamModel 80))

end ControlPlane
