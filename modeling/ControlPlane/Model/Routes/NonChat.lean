import ControlPlane.Model.Doors
import ControlPlane.Model.NonChatUpstream

/-!
# The non-chat doors after their gate

`src/routes/nonchat.ts`: the image, speech, transcription, video and music handlers.
A handler is what it does to the outside, in order, and what it answers. A ledger
write is an attempt: its failure is swallowed.
-/

namespace ControlPlane

open JsString (startsWith)

/-- What a job makes. -/
inductive PlaneLongRunKind where
  | video
  | music
  | speech
  | image
deriving Repr, DecidableEq

/-- The payload handed to the workflow. -/
structure PlaneLongRunParams where
  jobId : String
  kind : PlaneLongRunKind
  modelId : String
  upstreamModel : String
  prompt : String
  lyrics : Option String
  voice : Option String
  imageUrl : Option String
  imageObjectKey : Option String
  accountId : String
  clientId : String
  planId : String
  requestId : String
  unitMicroUsd : Nat
  unit : MeterUnit
  billableUnits : Option Int
  monthlyIncludedMicroUsd : Int
  origin : String
  durationSec : Option Int

/-- A request that has passed the gate of its door. -/
structure NonChatGateOk where
  requestId : String
  accountId : String
  clientId : String
  planId : String
  plan : Plan
  model : CatalogEntry
  unitPrice : UnitPrice
  auth : UpstreamAuth
  periodKey : String
  /-- Seconds of the request's clock. -/
  created : Int
  /-- The id `newId` mints for a row. -/
  useId : String
  /-- The id `newId` mints for a job. -/
  jobId : String

/-- What a handler reads of the HTTP request. -/
structure NonChatHttp where
  raw : Json
  /-- The `prefer` header, empty without one. -/
  prefer : String
  origin : String

/-- The largest body that is read, in bytes. -/
def NONCHAT_MAX_BODY : Nat := 4 * 1024 * 1024

/-- What the outside answers to a handler. -/
structure NonChatWorld where
  run : NonChatRunRequest → NonChatRunResult
  /-- `env.AI.run` of the Deepgram path; an error is the message it throws. -/
  ai : Option (String → DeepgramSttParams → Except String Json)
  /-- The message of what `atob` throws. -/
  atobMessage : String
  /-- The period row when a charge is split. -/
  periodNow : Option PeriodRow
  hasMedia : Bool
  hasSecret : Bool
  /-- The signed addresses minted for a video. -/
  uploadUrl : String
  downloadUrl : String
  /-- Whether the video is in MEDIA when the wait ends, and when it is looked for again. -/
  ready : Bool
  late : Bool
  /-- `rehostMusicAudio`. -/
  rehost : String → Option String
  /-- `LONGRUN.create`; an error is the message it throws. -/
  longrun : Option (PlaneLongRunParams → Except String Unit)

/-- What a door does beside its answer. -/
inductive NonChatEffect where
  | call (request : NonChatRunRequest)
  | bindingCall (model : String) (params : DeepgramSttParams)
  | record (event : UsageEvent)
  | createJob (jobId : String)
  | put (key contentType : String) (bytes : List UInt8)
  | startLongRun (params : PlaneLongRunParams)
  | failJob (jobId detail : String)

/-- How a door answers. -/
inductive NonChatAnswer where
  /-- 200, with the charge that its headers state. -/
  | ok (body : Json) (microUsd units : Int)
  /-- 202, with the job. -/
  | accepted (jobId : String)
  | error (error : ApiError) (upstreamStatus : Option Int)
  | threw

/-- What a request does, and its answer. -/
structure Served where
  effects : List NonChatEffect
  answer : NonChatAnswer

/-- Effects that come before a handler's rest. -/
def Served.after (effects : List NonChatEffect) (served : Served) : Served :=
  { served with effects := effects ++ served.effects }

/-- A refusal before anything was done. -/
def Served.refused (error : ApiError) : Served := ⟨[], .error error none⟩

/-- A string field that is not blank, trimmed. -/
def requireString (raw : Json) (key : String) : Option String :=
  ((raw.strField key).map JsString.trim).bind nonempty

/-- `\w`. -/
def isWordChar (c : Char) : Bool := c.isAlphanum || c == '_'

/-- `/\bword\b/i`, `word` in lower case, from a place after `before`. -/
def mentions (word : List Char) : Option Char → List Char → Bool
  | _, [] => false
  | before, c :: cs =>
    let text := c :: cs
    let here := word.isPrefixOf (text.map Char.toLower) &&
      !(before.map isWordChar).getD false &&
      !((text.drop word.length).head?.map isWordChar).getD false
    here || mentions word (some c) cs

/-- Prefer async when `body.async` says so, or the `prefer` header does. -/
def wantsAsync (http : NonChatHttp) : Bool :=
  match http.raw.field "async" with
  -- what the body says, `false` included, goes before the header
  | some (.bool asked) => asked
  | _ => mentions "respond-async".toList none http.prefer.toList

namespace NonChatGateOk

variable (gate : NonChatGateOk) (world : NonChatWorld)

/-- The row of a non-chat request, without its charge. -/
def baseEvent (upstreamStatus : Option Int) (gatewayLogId : Option String) : UsageEvent where
  id := gate.useId
  requestId := gate.requestId
  accountId := gate.accountId
  clientId := gate.clientId
  modelId := gate.model.id
  periodKey := gate.periodKey
  inputTokens := none
  outputTokens := none
  microUsd := 0
  fromAllowanceMicroUsd := 0
  fromCreditMicroUsd := 0
  metered := false
  priceBasis := .unpriced
  unmeteredReason := none
  upstreamStatus := upstreamStatus
  gatewayLogId := gatewayLogId

/-- The charged row: the price is split whenever there is one. -/
def meteredEvent (microUsd : Int) (upstreamStatus : Int) (gatewayLogId : Option String) :
    UsageEvent :=
  let event := { gate.baseEvent (some upstreamStatus) gatewayLogId with
    microUsd := microUsd
    metered := true
    priceBasis := .measured }
  if 0 < microUsd then event.withSplit gate.plan.monthlyIncludedMicroUsd world.periodNow
  else event.withoutSplit

/-- Charge the units, record the charge and answer. -/
def meterAndRespond (units : Int) (body : Json) (upstreamStatus : Int)
    (gatewayLogId : Option String) : Served :=
  let priced := priceUnits units gate.unitPrice
  ⟨[.record (gate.meteredEvent world priced.1 upstreamStatus gatewayLogId)],
    .ok body priced.1 priced.2⟩

/-- Record a call that is not charged. -/
def recordUnmetered (reason : String) (upstreamStatus : Option Int) : NonChatEffect :=
  -- the row bears no log of the gateway
  .record ((gate.baseEvent upstreamStatus none).unmetered reason)

/-- An unmetered row and the error that goes with it. -/
def failed (reason : String) (upstreamStatus : Option Int) (error : ApiError) : Served :=
  ⟨[gate.recordUnmetered reason upstreamStatus], .error error none⟩

/-- The request the runner is called with. -/
def runRequest (params : Json) : NonChatRunRequest where
  upstreamModel := gate.model.upstream
  billing := gate.model.billing
  modality := gate.model.modality
  params := params
  auth := gate.auth
  metadata := [("account_id", gate.accountId), ("client_id", gate.clientId),
    ("plan_id", gate.planId), ("request_id", gate.requestId), ("cf_token_id", gate.auth.tokenId)]

/-- Call the model, and go on with its body. -/
def runUpstream (params : Json) (next : Json → Option String → Served) : Served :=
  let request := gate.runRequest params
  Served.after [.call request] <|
    match world.run request with
    | .timeout waitedMs => gate.failed "timeout" none
        ⟨.upstreamTimeout, "The model did not answer within " ++ toString waitedMs ++ "ms."⟩
    -- the binding is missing: nothing was called, and nothing is recorded
    | .unavailable detail => .refused ⟨.unavailable, detail⟩
    | .upstreamError status detail =>
      ⟨[gate.recordUnmetered "upstream_error" status],
        .error ⟨.upstreamError, JsString.slice detail 300⟩ status⟩
    | .ok body gatewayLogId => next body gatewayLogId

/-- Call the model, and go on with a body that does not say it failed. -/
def runProvider (params : Json) (next : Json → Option String → Served) : Served :=
  gate.runUpstream world params fun body gatewayLogId =>
    match providerStateFailed body with
    -- answered with 200, but the provider reports a failure in it
    | some fail => gate.failed "provider_failed" (some 200) ⟨.upstreamError, fail⟩
    | none => next body gatewayLogId

/-! ## Jobs -/

/-- `/^data:([^;,]+);base64,(.+)$/s` -/
def stagedDataUrl : DataUrl.Pattern := ⟨false, true, DataUrl.isPlain⟩

/-- The cap on a stored object: 80 MiB. -/
def MEDIA_MAX_BYTES : Nat := 80 * 1024 * 1024

/-- A data image for MEDIA: its content type and its bytes. -/
def stageable (dataUrl : String) : Option (String × List UInt8) :=
  match stagedDataUrl.exec dataUrl with
  | none => none
  | some (contentType, b64) =>
    match Base64.atob b64 with
    | none => none
    | some bytes =>
      if bytes.length = 0 ∨ MEDIA_MAX_BYTES < bytes.length then none else some (contentType, bytes)

/-- The key a reference image is staged under. -/
def stagedKey : String :=
  "video/" ++ JsString.slice (String.ofList (gate.accountId.toList.filter fun c =>
    isWordChar c || c == '-')) 32 ++ "/" ++ gate.jobId ++ "-ref"

/-- What a handler hands to `startAsyncLongRun`. -/
structure LongRunArgs where
  kind : PlaneLongRunKind
  prompt : String
  lyrics : Option String
  imageUrl : Option String
  voice : Option String
  billableUnits : Int
  durationSec : Option Int

/-- The reference image that goes to MEDIA, so that the payload stays small. -/
def stagedImage (args : LongRunArgs) : Option (String × List UInt8) :=
  if (args.kind = .video ∨ args.kind = .image) ∧ world.hasMedia then
    (args.imageUrl.filter (startsWith · "data:")).bind stageable
  else none

/-- The payload of the workflow. -/
def longRunParams (http : NonChatHttp) (args : LongRunArgs) : PlaneLongRunParams where
  jobId := gate.jobId
  kind := args.kind
  modelId := gate.model.id
  upstreamModel := gate.model.upstream
  prompt := args.prompt
  lyrics := args.lyrics
  voice := args.voice
  -- a staged image travels as its key, any other as its address
  imageUrl := if (stagedImage world args).isSome then none else args.imageUrl
  imageObjectKey := (stagedImage world args).map fun _ => gate.stagedKey
  accountId := gate.accountId
  clientId := gate.clientId
  planId := gate.planId
  requestId := gate.requestId
  unitMicroUsd := gate.unitPrice.microUsdPerUnit
  unit := gate.unitPrice.unit
  billableUnits := some args.billableUnits
  monthlyIncludedMicroUsd := gate.plan.monthlyIncludedMicroUsd
  origin := http.origin
  durationSec := args.durationSec

/-- The answer once the workflow was asked for. -/
def jobStarted : Except String Unit → Served
  | .ok () => ⟨[], .accepted gate.jobId⟩
  -- the job exists already, so it is marked failed
  | .error message =>
    ⟨[.failJob gate.jobId (JsString.slice ("Workflow create failed: " ++ message) 280)],
      .error ⟨.unavailable,
        JsString.slice ("Failed to start long-run workflow: " ++ message) 280⟩ none⟩

/-- Create the job and the workflow instance. -/
def startAsyncLongRun (http : NonChatHttp) (args : LongRunArgs) : Served :=
  match world.longrun with
  | none => .refused ⟨.unavailable, "Long-run Workflow binding is not configured on this " ++
      "deployment. Add [[workflows]] LONGRUN / PlaneLongRunWorkflow (see wrangler.example.toml)."⟩
  | some create =>
    let params := gate.longRunParams world http args
    -- the reference image is stored before the workflow is asked for
    let puts := (stagedImage world args).toList.map fun image =>
      NonChatEffect.put gate.stagedKey image.1 image.2
    Served.after (.createJob gate.jobId :: puts ++ [.startLongRun params])
      (gate.jobStarted (create params))

/-! ## Handlers -/

/-- One item of `data`. -/
def imageItem : ImageAsset → Json
  | .b64Json data => .obj [("b64_json", .str data)]
  | .url address => .obj [("url", .str address)]

/-- The image door. -/
def handleImageGenerations (http : NonChatHttp) : Served :=
  match requireString http.raw "prompt" with
  | none => .refused (invalidRequest "\"prompt\" is required.")
  | some prompt =>
    let imageUrl := requireString http.raw "image" <|> requireString http.raw "image_url"
    -- slow models go to a job unasked
    if wantsAsync http || prefersAsyncImage gate.model.id then
      gate.startAsyncLongRun world http ⟨.image, prompt, none, imageUrl, none, 1, none⟩
    else
      gate.runProvider world (buildImageParams gate.model.id prompt imageUrl) fun body logId =>
        match extractImageAsset body with
        | none => gate.failed "no_image_payload" (some 200)
            ⟨.upstreamError, "Image generation returned no image payload."⟩
        | some asset => gate.meterAndRespond world 1 (.obj [("created", .num gate.created),
            ("data", .arr [imageItem asset]), ("model", .str gate.model.id)]) 200 logId

/-- Units of speech: thousands of characters, or one minute where the duration is unknown. -/
def speechUnits (input : String) : Int :=
  if gate.unitPrice.unit = .kCharacters then
    max 1 (((JsString.length input : Nat) : Rat) / 1000).ceil
  else 1

/-- The speech door. -/
def handleAudioSpeech (http : NonChatHttp) : Served :=
  match requireString http.raw "input" <|> requireString http.raw "text" with
  | none => .refused (invalidRequest "\"input\" (or \"text\") is required.")
  | some input =>
    let voice := requireString http.raw "voice" <|> requireString http.raw "speaker"
    if wantsAsync http then
      gate.startAsyncLongRun world http
        ⟨.speech, input, none, none, voice, gate.speechUnits input, none⟩
    else
      gate.runProvider world (buildTtsParams gate.model.id input voice) fun body logId =>
        match (extractAudioBase64 body).bind nonempty with
        | none => gate.failed "no_audio_payload" (some 200)
            ⟨.upstreamError, "TTS returned no audio payload."⟩
        | some audio => gate.meterAndRespond world (gate.speechUnits input)
            (.obj [("model", .str gate.model.id), ("audio_base64", .str audio),
              ("format", .str "mp3")]) 200 logId

/-- The transcript as it is answered. -/
def transcriptBody (text : String) : Json := .obj [("model", .str gate.model.id), ("text", .str text)]

/-- What the client is told when the binding call throws. -/
def sttMessage (thrown : String) : String :=
  if JsString.includes thrown "5006" || JsString.includes (JsString.toLowerCase thrown) "bad input"
  then "STT provider rejected the audio format. Try Whisper Large v3 Turbo, or re-record a short clip."
  else "STT provider request failed."

/-- Deepgram batch STT through the binding, with no gateway log. -/
def runDeepgramBatchStt (audioBase64 mime : String) : Served :=
  match world.ai with
  | none => .refused ⟨.unavailable,
      "Deepgram STT requires the Worker AI binding ([ai] binding = \"AI\")."⟩
  | some run =>
    let caught (message : String) : Served := gate.failed "upstream_error" none
      ⟨.upstreamError, sttMessage message⟩
    match buildDeepgramSttBindingParams audioBase64 mime with
    -- what decoding the audio throws is caught with the call's own errors
    | .error _ => caught world.atobMessage
    | .ok params =>
      Served.after [.bindingCall gate.model.upstream params] <|
        match run gate.model.upstream params with
        | .error message => caught message
        | .ok result =>
          match extractTranscript result with
          | none => gate.failed "no_transcript" (some 200)
              ⟨.upstreamError, "STT returned no transcript."⟩
          | some text => gate.meterAndRespond world 1 (gate.transcriptBody text) 200 none

/-- `/^data:(audio\/[a-zA-Z0-9.+-]+);base64,(.+)$/` -/
def audioDataUrl : DataUrl.Pattern := ⟨false, false, DataUrl.family false "audio/" DataUrl.isSubtype⟩

/-- The transcription door. -/
def handleAudioTranscriptions (http : NonChatHttp) : Served :=
  match requireString http.raw "audio" <|> requireString http.raw "file" with
  | none => .refused (invalidRequest
      "\"audio\" is required (base64 or data:audio/...;base64,...).")
  | some sent =>
    -- a bare base64 text is taken for MPEG audio
    let (mime, audio) := (audioDataUrl.exec sent).getD ("audio/mpeg", sent)
    if isDeepgramBatchStt gate.model.id then gate.runDeepgramBatchStt world audio mime
    else
      match buildSttParams gate.model.id audio with
      -- here nothing catches it
      | .error _ => ⟨[], .threw⟩
      | .ok params =>
        gate.runProvider world params fun body logId =>
          match extractTranscript body with
          | none => gate.failed "no_transcript" (some 200)
              ⟨.upstreamError, "STT returned no transcript."⟩
          | some text => gate.meterAndRespond world 1 (gate.transcriptBody text) 200 logId

/-- Whether xAI has to be handed an upload address. -/
def needsUpload : Bool := startsWith gate.model.id "xai/grok-imagine-video"

/-- The address of a video: ours once the object is there, else the provider's. -/
def videoAddress (body : Json) : Option String :=
  let asset := extractVideoAsset body
  if gate.needsUpload then
    if world.ready then some world.downloadUrl
    -- it is looked for once more where the provider names an asset
    else if asset.isSome && world.late then some world.downloadUrl
    else asset
  else asset

/-- Run the video model and wait for its upload. -/
def produceVideo (prompt : String) (imageUrl : Option String) (durationSec : Int)
    (next : String → Json → Option String → Served) : Served :=
  if gate.needsUpload && !(world.hasMedia && world.hasSecret) then
    .refused ⟨.unavailable, "Grok video requires the MEDIA R2 binding and CF_AIG_TOKEN " ++
      "(ZDR-managed xAI needs output.upload_url). Use Veo or Seedance Fast until configured."⟩
  else
    let uploadUrl := if gate.needsUpload then some world.uploadUrl else none
    gate.runProvider world (buildVideoParams gate.model.id prompt imageUrl
        ⟨uploadUrl, some durationSec⟩) fun body logId =>
      match gate.videoAddress world body with
      | none => gate.failed "no_video_payload" (some 200)
          ⟨.upstreamError, "Video generation returned no video payload."⟩
      | some asset => next asset body logId

/-- The video door. -/
def handleVideoGenerations (http : NonChatHttp) : Served :=
  let prompt := (requireString http.raw "prompt").getD ""
  let imageUrl := requireString http.raw "image" <|> requireString http.raw "image_url"
  if prompt = "" ∧ imageUrl = none then
    .refused (invalidRequest "\"prompt\" or \"image\" is required for video generation.")
  else if startsWith gate.model.id "minimax/hailuo" ∧ imageUrl = none then
    .refused (invalidRequest ("Model \"" ++ gate.model.id ++ "\" requires an image (i2v). " ++
      "Pass \"image\" as an https URL or data: URI, or pick a text-to-video model " ++
      "(e.g. bytedance/seedance-2.0-mini, xai/grok-imagine-video, google/veo-3.1-fast)."))
  else
    let durationSec := (resolveVideoDuration gate.model.id
      (Json.orElse (http.raw.field "duration") (http.raw.field "seconds"))).1
    if wantsAsync http then
      gate.startAsyncLongRun world http ⟨.video, prompt, none, imageUrl, none, 1, some durationSec⟩
    else
      gate.produceVideo world prompt imageUrl durationSec fun video body logId =>
        gate.meterAndRespond world 1 (.obj [("model", .str gate.model.id), ("video", .str video),
          ("duration", .num durationSec), ("result", body)]) 200 logId

/-- An address. -/
def looksLikeHttpUrl (s : String) : Bool := startsWith s "https://" || startsWith s "http://"

/-- The music a client is handed: rehosted when it is at an address and that works. -/
def musicAsset (asset : String) : String × Bool :=
  if looksLikeHttpUrl asset && (world.hasMedia && world.hasSecret) then
    match world.rehost asset with
    | some hosted => (hosted, true)
    -- rehosting is tried; the provider's address still plays without it
    | none => (asset, false)
  else (asset, false)

/-- A boolean field of the request. -/
def boolField (raw : Json) (name : String) : Option Bool :=
  match raw.field name with
  | some (.bool value) => some value
  | _ => none

/-- The music door. -/
def handleMusicGenerations (http : NonChatHttp) : Served :=
  match requireString http.raw "prompt" with
  | none => .refused (invalidRequest "\"prompt\" is required.")
  | some prompt =>
    let lyrics := requireString http.raw "lyrics"
    let opts : BuildMusicParamsOpts :=
      ⟨boolField http.raw "is_instrumental", boolField http.raw "lyrics_optimizer"⟩
    if wantsAsync http then
      -- the two flags are not handed on
      gate.startAsyncLongRun world http ⟨.music, prompt, lyrics, none, none, 1, none⟩
    else
      gate.runProvider world (buildMusicParams prompt lyrics opts) fun body logId =>
        match extractMusicAsset body with
        | none => gate.failed "no_music_payload" (some 200)
            ⟨.upstreamError, "Music generation returned no audio payload."⟩
        | some asset =>
          let (audio, rehosted) := musicAsset world asset
          gate.meterAndRespond world 1 (.obj [("model", .str gate.model.id), ("audio", .str audio),
            ("rehosted", .bool rehosted)]) 200 logId

end NonChatGateOk

/-- The five doors. -/
inductive NonChatDoor where
  | imageGenerations
  | audioSpeech
  | audioTranscriptions
  | videoGenerations
  | musicGenerations
deriving Repr, DecidableEq

/-- The handler of a door, after its gate. -/
def NonChatDoor.handle (door : NonChatDoor) (gate : NonChatGateOk) (world : NonChatWorld)
    (http : NonChatHttp) : Served :=
  match door with
  | .imageGenerations => gate.handleImageGenerations world http
  | .audioSpeech => gate.handleAudioSpeech world http
  | .audioTranscriptions => gate.handleAudioTranscriptions world http
  | .videoGenerations => gate.handleVideoGenerations world http
  | .musicGenerations => gate.handleMusicGenerations world http

end ControlPlane
