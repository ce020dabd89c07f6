import ControlPlane.ForStd.Steps
import ControlPlane.Model.NonChatRunner
import ControlPlane.Model.Routes.NonChat
import ControlPlane.Model.StoreJobs

/-!
# The long-run workflow

`src/routes/longrun-workflow.ts`: the model is called in one step, its asset rehosted in
the next, and the job metered and marked in the last. What a step throws is retried up to
the step's limit; whatever comes of that, a run that fails marks its job failed.
-/

namespace ControlPlane

open JsString (startsWith)
open Steps (Outcome)

/-- What an attempt finds outside. -/
structure LongRunWorld where
  /-- Whether a gateway is configured. -/
  hasGateway : Bool
  /-- `CF_AIG_TOKEN`, empty without one. -/
  token : String
  hasMedia : Bool
  /-- `MEDIA.get`: content type and bytes. -/
  media : String → Option (Option String × List UInt8)
  /-- The signed addresses minted for a video. -/
  uploadUrl : String
  downloadUrl : String
  run : NonChatRunRequest → NonChatRunResult
  /-- Whether the video is in MEDIA when the wait ends. -/
  ready : Bool
  /-- The message of what `atob` throws. -/
  atobMessage : String
  /-- `MEDIA.put` of a result; an error is the message it throws. -/
  put : List UInt8 → Except String Unit
  /-- The signed address of a stored result. -/
  mediaUrl : String
  /-- `rehostMusic` and `rehostImage`. -/
  rehost : String → Option String

/-- `mediaSigningSecret(env)` -/
def LongRunWorld.hasSecret (world : LongRunWorld) : Bool := 16 ≤ JsString.length world.token

/-! ## Calling the model -/

/-- The name of a kind. -/
def kindName : PlaneLongRunKind → String
  | .video => "video"
  | .music => "music"
  | .speech => "speech"
  | .image => "image"

namespace LongRunWorld

variable (world : LongRunWorld) (p : PlaneLongRunParams)

/-- The reference image: the staged one read back as a data URL, or the address. -/
def referenceImage : Except String (Option String) :=
  match p.imageObjectKey with
  | some key =>
    if world.hasMedia then
      match world.media key with
      | none => .error "Staged i2v image missing from MEDIA R2."
      | some (contentType, bytes) =>
        .ok (some ("data:" ++ contentType.getD "image/jpeg" ++ ";base64," ++ Base64.btoa bytes))
    -- without the bucket a staged image falls back to the address
    else .ok p.imageUrl
  | none => .ok p.imageUrl

/-- Whether the provider has to be handed an upload address. -/
def uploads : Bool := p.kind = .video && startsWith p.modelId "xai/grok-imagine-video"

/-- The upload link of a job, where its model needs one. -/
def uploadFor : Except String (Option String) :=
  if uploads p then
    if world.hasMedia && world.hasSecret then .ok (some world.uploadUrl)
    else .error "Grok video requires MEDIA R2 + CF_AIG_TOKEN for ZDR output.upload_url."
  else .ok none

/-- The params of the call, rebuilt from the payload. -/
def invokeParams : Except String Json := do
  let image ← world.referenceImage p
  let uploadUrl ← world.uploadFor p
  pure (match p.kind with
    | .music => buildMusicParams p.prompt p.lyrics ⟨none, none⟩
    | .speech => buildTtsParams p.modelId p.prompt p.voice
    | .image => buildImageParams p.modelId p.prompt image
    | .video => buildVideoParams p.modelId p.prompt image ⟨uploadUrl, p.durationSec⟩)

/-- The request the runner is called with. -/
def runRequest (entry : CatalogEntry) (params : Json) : NonChatRunRequest where
  upstreamModel := p.upstreamModel
  billing := entry.billing
  modality := entry.modality
  params := params
  auth := ⟨"shared", JsString.trim world.token⟩
  metadata := [("account_id", p.accountId), ("client_id", p.clientId), ("plan_id", p.planId),
    ("request_id", p.requestId), ("job_id", p.jobId), ("cf_token_id", "shared")]

/-! ## Storing the asset -/

/-- Decode base64, with or without its data URL, and store it. -/
def putBase64 (family wiring what b64 : String) : Except String String :=
  if !(world.hasMedia && world.hasSecret) then .error wiring
  else
    let pattern : DataUrl.Pattern := ⟨true, false, DataUrl.family true family DataUrl.isAnything⟩
    let raw := ((pattern.exec b64).map (·.2)).getD b64
    match Base64.atob raw with
    | none => .error world.atobMessage
    | some bytes =>
      if bytes.length = 0 ∨ NonChatGateOk.MEDIA_MAX_BYTES < bytes.length then
        .error (what ++ " size " ++ toString bytes.length ++ " is empty or over MEDIA cap.")
      else (world.put bytes).map fun _ => world.mediaUrl

/-- Store the audio of a speech. -/
def putSpeechAudio (b64 : String) : Except String String :=
  world.putBase64 "audio/" "MEDIA R2 + signing required to store TTS audio for mobile playback."
    "TTS audio" b64

/-- Store an image. -/
def putImageBytes (b64 : String) : Except String String :=
  world.putBase64 "image/" "MEDIA R2 + signing required to store async image results." "Image" b64

end LongRunWorld

mutual

/-- A body as `JSON.stringify` takes it. -/
def Json.toValue : Json → JsonText.Value
  | .null => .null
  | .bool value => .bool value
  | .num value => .num value
  | .str value => JsonText.text value
  | .arr items => .arr (itemValues items)
  | .obj fields => .obj (fieldValues fields)

/-- The items of an array as values of a text. -/
def itemValues : List Json → List JsonText.Value
  | [] => []
  | item :: items => Json.toValue item :: itemValues items

/-- The fields of an object as values of a text. -/
def fieldValues : List (String × Json) → List (JsonText.JsStr × JsonText.Value)
  | [] => []
  | (name, value) :: fields => (Utf16.encode name, Json.toValue value) :: fieldValues fields

end

/-- `JSON.stringify`. -/
def stringifyJson (body : Json) : String := String.ofList (JsonText.stringify (Json.toValue body))

/-- What a job has produced. -/
structure LongRunAsset where
  url : String
  gatewayLogId : Option String

namespace LongRunWorld

variable (world : LongRunWorld) (p : PlaneLongRunParams)

/-- The address of what the provider made, stored where it came as bytes. -/
def storedAsset (body : Json) : Except String String :=
  match p.kind with
  | .speech =>
    match (extractAudioBase64 body).bind nonempty with
    | none => .error "TTS returned no audio payload."
    | some b64 => world.putSpeechAudio b64
  | .image =>
    match extractImageAsset body with
    | none => .error "Image generation returned no image payload."
    | some (.b64Json b64) => world.putImageBytes b64
    | some (.url address) => .ok address
  | kind =>
    let asset := if kind = .music then extractMusicAsset body else extractVideoAsset body
    -- a model that uploads by itself has put its asset where it was told to
    let url := if uploads p && world.ready then some world.downloadUrl else asset
    match url with
    | none => .error (kindName kind ++ " completed but no asset URL. Raw: " ++
        JsString.slice (stringifyJson body) 400)
    | some url => .ok url

/-- One attempt of `invoke-model`: what the provider answered, if it was called, and what
    the attempt ends in. A failure past the provider's answer is fatal. -/
structure Invocation where
  called : Option NonChatRunResult
  ended : Outcome LongRunAsset

/-- What the step makes of an answer. -/
def afterCall (result : NonChatRunResult) : Outcome LongRunAsset :=
  match result with
  | .timeout waitedMs => .threw ("Upstream timeout after " ++ toString waitedMs ++ "ms")
  | .unavailable detail => .threw detail
  | .upstreamError _ detail => .threw detail
  | .ok body gatewayLogId =>
    match providerStateFailed body with
    | some fail => .threw fail
    | none =>
      match world.storedAsset p body with
      -- past this point a retry would pay the provider twice
      | .error message => .fatal message
      | .ok url => .returned ⟨url, gatewayLogId⟩

/-- One attempt of the step that calls the model. -/
def invokeModel (catalog : Catalog) : Invocation :=
  if !world.hasGateway then ⟨none, .threw "No AI Gateway configured on this deployment."⟩
  else if JsString.trim world.token = "" then ⟨none, .threw "CF_AIG_TOKEN is not configured."⟩
  else
    match world.invokeParams p with
    | .error message => ⟨none, .threw message⟩
    | .ok params =>
      match catalog.findModel p.modelId with
      -- not fatal: the step is retried
      | none => ⟨none, .threw ("Model not in catalog: " ++ p.modelId)⟩
      | some entry =>
        let result := world.run (world.runRequest p entry params)
        ⟨some result, world.afterCall p result⟩

/-- `rehost-asset`: music and images at an address are moved to MEDIA where that works. -/
def rehostAsset (asset : LongRunAsset) : String × Bool :=
  let moved := if (p.kind = .music ∨ p.kind = .image) ∧ NonChatGateOk.looksLikeHttpUrl asset.url ∧
      world.hasMedia ∧ world.hasSecret then world.rehost asset.url else none
  match moved with
  | some hosted => (hosted, true)
  | none => (asset.url, p.kind = .speech ||
      (p.kind = .image && !NonChatGateOk.looksLikeHttpUrl asset.url))

end LongRunWorld

/-! ## Metering -/

/-- What an attempt of `finalize` reads off clocks and mints. -/
structure FinalizeClock where
  periodKey : String
  useId : String
  createdAt : Int
  updatedAt : Int
  createdSec : Int

/-- The units a job is billed for. -/
def PlaneLongRunParams.units (p : PlaneLongRunParams) : Int := max 1 (p.billableUnits.getD 1)

/-- The price of a job. -/
def PlaneLongRunParams.price (p : PlaneLongRunParams) : Int :=
  (priceUnits p.units ⟨p.unitMicroUsd, p.unit⟩).1

/-- The row of a job, before its price is split. -/
def PlaneLongRunParams.baseEvent (p : PlaneLongRunParams) (clock : FinalizeClock)
    (gatewayLogId : Option String) : UsageEvent where
  id := clock.useId
  requestId := p.requestId
  accountId := p.accountId
  clientId := p.clientId
  modelId := p.modelId
  periodKey := clock.periodKey
  inputTokens := none
  outputTokens := none
  microUsd := p.price
  fromAllowanceMicroUsd := 0
  fromCreditMicroUsd := 0
  metered := true
  priceBasis := .measured
  unmeteredReason := none
  upstreamStatus := some 200
  gatewayLogId := gatewayLogId

/-- The row of a job: its price is split whenever there is one. -/
def PlaneLongRunParams.event (p : PlaneLongRunParams) (clock : FinalizeClock)
    (gatewayLogId : Option String) (periodBefore : Option PeriodRow) : UsageEvent :=
  if 0 < p.price then (p.baseEvent clock gatewayLogId).withSplit p.monthlyIncludedMicroUsd periodBefore
  else (p.baseEvent clock gatewayLogId).withoutSplit

/-- Record the charge of a job that has its asset. -/
def meterJob (p : PlaneLongRunParams) (clock : FinalizeClock) (gatewayLogId : Option String) :
    Script Db (Except String Unit) := do
  let account ← getAccount p.accountId
  match account with
  | none => pure (.error "Account missing at meter time")
  | some _ => do
    -- the split is taken from the period as this attempt finds it
    let periodBefore ← getPeriod p.accountId clock.periodKey
    recordUsage (p.event clock gatewayLogId periodBefore) clock.createdAt
    pure (.ok ())

/-- What a client polls of a job that succeeded. -/
def PlaneLongRunParams.resultJson (p : PlaneLongRunParams) (createdSec : Int)
    (finalAsset : String × Bool) : String :=
  stringifyJson (match p.kind with
    | .music => .obj [("audio", .str finalAsset.1), ("rehosted", .bool finalAsset.2),
        ("model", .str p.modelId)]
    | .speech => .obj [("audio", .str finalAsset.1), ("format", .str "mp3"),
        ("model", .str p.modelId)]
    | .image => .obj [("created", .num createdSec),
        ("data", .arr [.obj [("url", .str finalAsset.1)]]), ("model", .str p.modelId),
        ("rehosted", .bool finalAsset.2)]
    | .video => .obj [("video", .str finalAsset.1), ("model", .str p.modelId)])

/-- `finalize`: the charge, then the status. -/
def finalize (p : PlaneLongRunParams) (clock : FinalizeClock) (asset : LongRunAsset)
    (finalAsset : String × Bool) : Script PlaneDb (Except String Unit) := do
  let metered ← onDb (meterJob p clock asset.gatewayLogId)
  match metered with
  | .error message => pure (.error message)
  | .ok () => do
    -- an attempt cut here has charged: the retry's insert finds the request there
    updateAsyncJob ⟨p.jobId, .succeeded, some (some (p.resultJson clock.createdSec finalAsset)),
      some none, some none, clock.updatedAt⟩
    pure (.ok ())

/-- Mark a job failed. -/
def failJob (p : PlaneLongRunParams) (message : String) (updatedAt : Int) : Script PlaneDb Unit :=
  updateAsyncJob ⟨p.jobId, .failed, none, some (some "upstream_error"),
    some (some (JsString.slice message 280)), updatedAt⟩

/-! ## Runs -/

/-- Where an attempt of `invoke-model` is interrupted: before its call or after it. -/
inductive InvokeCut where
  | beforeCall
  | afterCall
deriving Repr, DecidableEq

/-- What a run meets: the outside as each attempt finds it, and where attempts are
    interrupted. A cut of `n` interrupts an attempt after `n` of its statements. -/
structure LongRunEnv where
  invokeWorld : Nat → LongRunWorld
  invokeCut : Nat → Option InvokeCut
  rehostWorld : Nat → LongRunWorld
  rehostCut : Nat → Bool
  finalizeClock : Nat → FinalizeClock
  finalizeCut : Nat → Option Nat
  failedAt : Int
  /-- Where marking the job failed is interrupted. What it throws is swallowed. -/
  failCut : Option Nat

namespace LongRunEnv

variable (env : LongRunEnv) (catalog : Catalog) (p : PlaneLongRunParams)

/-- An attempt of `invoke-model`, with the provider's answers so far. -/
def invokeAttempt (n : Nat) (answers : List NonChatRunResult) :
    Outcome LongRunAsset × List NonChatRunResult :=
  let invocation := (env.invokeWorld n).invokeModel p catalog
  match env.invokeCut n with
  | some .beforeCall => (.threw "interrupted", answers)
  | some .afterCall => (.threw "interrupted", answers ++ invocation.called.toList)
  | none => (invocation.ended, answers ++ invocation.called.toList)

/-- An attempt of `rehost-asset`. -/
def rehostAttempt (asset : LongRunAsset) (n : Nat) (s : Unit) : Outcome (String × Bool) × Unit :=
  if env.rehostCut n then (.threw "interrupted", s)
  else (.returned ((env.rehostWorld n).rehostAsset p asset), s)

/-- An attempt of `finalize`. -/
def finalizeAttempt (asset : LongRunAsset) (finalAsset : String × Bool) (n : Nat) (s : PlaneDb) :
    Outcome Unit × PlaneDb :=
  Steps.cutAttempt (finalize p (env.finalizeClock n) asset finalAsset) (env.finalizeCut n) s

/-- The catch of the run. -/
def failed (message : String) (s : PlaneDb) : PlaneDb :=
  match env.failCut with
  -- the catch swallows what marking throws
  | some n => (Script.runFor n (failJob p message env.failedAt) s).2
  | none => ((failJob p message env.failedAt).run s).2

/-- The step that calls the model: one retry. -/
def invokeStep : Except String LongRunAsset × List NonChatRunResult :=
  Steps.retry (env.invokeAttempt catalog p) 1 0 []

/-- The step that moves the asset: two retries. -/
def rehostStep (asset : LongRunAsset) : Except String (String × Bool) :=
  (Steps.retry (env.rehostAttempt p asset) 2 0 ()).1

/-- The step that charges and marks the job: three retries. -/
def finalizeStep (asset : LongRunAsset) (finalAsset : String × Bool) (s : PlaneDb) :
    Except String Unit × PlaneDb :=
  Steps.retry (env.finalizeAttempt p asset finalAsset) 3 0 s

/-- The database a run leaves. -/
def run (s : PlaneDb) : PlaneDb :=
  match (env.invokeStep catalog p).1 with
  | .error message => env.failed p message s
  | .ok asset =>
    match env.rehostStep p asset with
    | .error message => env.failed p message s
    | .ok finalAsset =>
      match env.finalizeStep p asset finalAsset s with
      | (.ok (), s') => s'
      | (.error message, s') => env.failed p message s'

/-- What the provider answered to the calls of a run. -/
def answers : List NonChatRunResult := (env.invokeStep catalog p).2

end LongRunEnv

end ControlPlane
