import ControlPlane.ForStd.Base64
import ControlPlane.ForStd.DataUrl
import ControlPlane.Model.Catalog
import ControlPlane.Model.Inference
import ControlPlane.Model.VideoDuration

/-!
# Non-chat upstream bodies

`src/nonchat-upstream.ts`: what is sent to an image, speech, transcription, video or
music model, and the readers of what comes back.
-/

namespace ControlPlane

open JsString (startsWith)

/-! ## Bodies -/

/-- The cap on a prompt. -/
def MAX_PROMPT_CHARS : Nat := 8000

/-- The cap on an audio payload in base64. -/
def MAX_AUDIO_B64_CHARS : Nat := 4 * 1024 * 1024

/-- A prompt cut at the cap. -/
def clipPrompt (prompt : String) : String :=
  if JsString.length prompt ≤ MAX_PROMPT_CHARS then prompt
  else JsString.slice prompt MAX_PROMPT_CHARS

/-- `/^data:[^;]+;base64,(.+)$/i` -/
def anyDataUrl : DataUrl.Pattern := ⟨true, false, DataUrl.isAnything⟩

/-- The payload of a data URL, or the text itself. -/
def stripDataUrlToBase64 (image : String) : String :=
  match anyDataUrl.exec image with
  | some (_, data) => data
  | none => image

/-- The reference image of a request, when it is short and of one of the accepted schemes. -/
def acceptedImage (schemes : List String) (imageUrl : Option String) : Option String :=
  imageUrl.filter fun url =>
    0 < JsString.length url && JsString.length url ≤ MAX_AUDIO_B64_CHARS &&
      schemes.any (startsWith url)

/-- A body with the fields of a reference image after the others. -/
def withImage (fields : List (String × Json)) (image : Option String)
    (field : String → List (String × Json)) : Json :=
  .obj (fields ++ (image.map field).getD [])

/-- Build image-gen params. The field of the reference image varies by provider. -/
def buildImageParams (modelId prompt : String) (imageUrl : Option String) : Json :=
  let prompt := ("prompt", Json.str (clipPrompt prompt))
  let image := acceptedImage ["data:", "https://", "http://"] imageUrl
  -- no reference image, and a small picture in four steps
  if startsWith modelId "@cf/black-forest-labs/flux-1-schnell" then
    .obj [prompt, ("width", .num 512), ("height", .num 512), ("steps", .num 4)]
  else if startsWith modelId "@cf/black-forest-labs/flux-2" then
    withImage [prompt, ("width", .num 1024), ("height", .num 1024)] image
      fun image => [("input_image_0", .str (stripDataUrlToBase64 image))]
  else if modelId = "@cf/stabilityai/stable-diffusion-xl-base-1.0" then
    .obj [prompt, ("width", .num 1024), ("height", .num 1024), ("num_steps", .num 20)]
  -- any other Workers AI model
  else if startsWith modelId "@cf/" then
    .obj [prompt, ("width", .num 1024), ("height", .num 1024), ("steps", .num 25)]
  -- Imagen takes no reference image, the other Google models take a list
  else if modelId = "google/imagen-4" ∨ startsWith modelId "google/imagen" then
    .obj [prompt, ("aspect_ratio", .str "1:1")]
  else if startsWith modelId "google/" then
    withImage [prompt, ("output_format", .str "png")] image
      fun image => [("image_input", .arr [.str image])]
  else if startsWith modelId "openai/" then
    withImage [prompt, ("quality", .str "high"), ("size", .str "1024x1024")] image
      fun image => [("images", .arr [.str image])]
  else if startsWith modelId "xai/" then
    withImage [prompt, ("response_format", .str "b64_json")] image
      fun image => [("image", .obj [("url", .str image)])]
  else
    withImage [prompt] image fun image => [("image", .str image)]

/-- Default Aura speaker when the client omits voice. -/
def defaultTtsVoice (modelId : String) : String :=
  if JsString.includes modelId "aura-2-es" || JsString.endsWith modelId "/aura-2-es" then "sirio"
  else "luna"

/-- TTS body for Aura and MeloTTS. -/
def buildTtsParams (modelId text : String) (voice : Option String) : Json :=
  let text := clipPrompt text
  if JsString.includes modelId "melotts" then
    .obj [("prompt", .str text), ("lang", .str "en")]
  else
    let speaker := match voice with
      | some voice => if JsString.trim voice = "" then defaultTtsVoice modelId
        else JsString.toLowerCase (JsString.trim voice)
      | none => defaultTtsVoice modelId
    -- the voice goes under both names, each model reads its own
    .obj [("text", .str text), ("speaker", .str speaker), ("voice", .str speaker),
      ("encoding", .str "mp3")]

/-- `atob` of a text without its white space; what is not base64 throws. -/
def base64ToBytes (b64 : String) : Throws (List UInt8) :=
  match Base64.atob (String.ofList (b64.toList.filter fun c => !JsString.isTrimmed c)) with
  | some bytes => .ok bytes
  | none => .error ⟨⟩

/-- An audio payload cut at the cap. -/
def clipAudio (audioBase64 : String) : String :=
  if JsString.length audioBase64 ≤ MAX_AUDIO_B64_CHARS then audioBase64
  else JsString.slice audioBase64 MAX_AUDIO_B64_CHARS

/-- The Whisper models that take an array of bytes. -/
def isClassicWhisperUint8Model (modelId : String) : Bool :=
  modelId == "@cf/openai/whisper" || modelId == "@cf/openai/whisper-tiny-en" ||
    JsString.endsWith modelId "/whisper" || JsString.endsWith modelId "/whisper-tiny-en"

/-- Workers AI STT params: the bytes as numbers for classic models, else base64. -/
def buildSttParams (modelId audioBase64 : String) : Throws Json := do
  let audio := clipAudio audioBase64
  if isClassicWhisperUint8Model modelId then
    let bytes ← base64ToBytes audio
    pure (.obj [("audio", .arr (bytes.map fun b => .num b.toNat))])
  else pure (.obj [("audio", .str audio)])

/-- The Deepgram models that transcribe a whole file. -/
def isDeepgramBatchStt (modelId : String) : Bool :=
  startsWith modelId "@cf/deepgram/" && !JsString.includes modelId "flux"

/-- The stream that is handed to the binding, and its content type. -/
structure DeepgramSttParams where
  body : List UInt8
  contentType : String
deriving DecidableEq

/-- The bytes and the type a Deepgram model is sent. -/
def buildDeepgramSttBindingParams (audioBase64 mime : String) : Throws DeepgramSttParams := do
  let bytes ← base64ToBytes (clipAudio audioBase64)
  pure ⟨bytes, if mime ≠ "" ∧ startsWith mime "audio/" then mime else "audio/mpeg"⟩

/-- What a video is asked for beside its prompt. -/
structure BuildVideoParamsOpts where
  uploadUrl : Option String
  durationSec : Option Int

/-- An upload URL that is short enough and absolute. -/
def acceptedUploadUrl (uploadUrl : Option String) : Option String :=
  uploadUrl.filter fun url => 0 < JsString.length url && JsString.length url ≤ 2048 &&
    (startsWith url "https://" || startsWith url "http://")

/-- The duration as a model is sent it. -/
def videoDurationWire (modelId : String) (opts : BuildVideoParamsOpts) : Json :=
  (resolveVideoDuration modelId (opts.durationSec.map fun seconds => .num seconds)).2

/-- `output.upload_url`, when there is one. -/
def outputField (uploadUrl : Option String) : List (String × Json) :=
  (uploadUrl.map fun url => [("output", Json.obj [("upload_url", .str url)])]).getD []

/-- Image-to-video params, by model. -/
def imageToVideoParams (modelId prompt image : String) (duration : Json)
    (uploadUrl : Option String) : Json :=
  if startsWith modelId "bytedance/seedance" then
    .obj [("image", .str image), ("prompt", .str prompt), ("aspect_ratio", .str "16:9"),
      ("duration", duration), ("resolution", .str "720p"), ("fps", .num 24),
      ("camera_fixed", .bool false), ("watermark", .bool false), ("generate_audio", .bool false)]
  else if startsWith modelId "minimax/hailuo" then
    .obj [("first_frame_image", .str image), ("prompt", .str prompt), ("duration", duration),
      ("resolution", .str "768P"), ("fast_pretreatment", .bool false),
      ("prompt_optimizer", .bool true)]
  else if startsWith modelId "runwayml/" then
    .obj [("image_input", .str image), ("prompt", .str prompt), ("duration", duration),
      ("ratio", .str "1280:720"),
      ("content_moderation", .obj [("public_figure_threshold", .str "low")])]
  else if modelId = "alibaba/hh1-i2v" ∨ modelId = "alibaba/hh1.1-i2v" ∨
      modelId = "alibaba/wan-2.7-i2v" then
    -- these three leave an empty prompt out
    .obj ([("image", .str image), ("resolution", .str "720P"), ("duration", duration)] ++
      if prompt = "" then [] else [("prompt", .str prompt)])
  else if startsWith modelId "xai/grok-imagine-video" then
    .obj ([("prompt", .str prompt), ("duration", duration), ("aspect_ratio", .str "16:9"),
      ("resolution", .str "720p"), ("image", .obj [("url", .str image)])] ++ outputField uploadUrl)
  else if startsWith modelId "pixverse/" ∨ startsWith modelId "vidu/" then
    .obj ([("prompt", .str prompt), ("image", .str image), ("duration", duration),
      ("aspect_ratio", .str "16:9")] ++
      if startsWith modelId "pixverse/" then
        [("generate_audio", .bool true), ("quality", .str "720p")]
      else [("resolution", .str "720p")])
  else .obj [("image", .str image), ("prompt", .str prompt), ("duration", duration)]

/-- Text-to-video params, by model. -/
def textToVideoParams (modelId prompt : String) (duration : Json) (uploadUrl : Option String) :
    Json :=
  if startsWith modelId "minimax/hailuo" then
    .obj [("prompt", .str prompt), ("duration", duration), ("resolution", .str "768P"),
      ("prompt_optimizer", .bool true), ("first_frame_image", .str "")]
  else if startsWith modelId "xai/grok-imagine-video" then
    .obj ([("prompt", .str prompt), ("duration", duration), ("aspect_ratio", .str "16:9"),
      ("resolution", .str "720p")] ++ outputField uploadUrl)
  else if startsWith modelId "bytedance/seedance" then
    .obj [("prompt", .str prompt), ("aspect_ratio", .str "16:9"), ("duration", duration),
      ("resolution", .str "720p"), ("fps", .num 24), ("camera_fixed", .bool false),
      ("watermark", .bool false)]
  else if startsWith modelId "runwayml/" then
    .obj [("prompt", .str prompt), ("duration", duration), ("ratio", .str "1280:720"),
      ("content_moderation", .obj [("public_figure_threshold", .str "low")])]
  else if startsWith modelId "alibaba/" then
    .obj [("prompt", .str prompt), ("resolution", .str "720P"), ("duration", duration)]
  else if startsWith modelId "pixverse/" then
    .obj [("prompt", .str prompt), ("duration", duration), ("aspect_ratio", .str "16:9"),
      ("generate_audio", .bool true), ("quality", .str "720p")]
  else if startsWith modelId "vidu/" then
    .obj [("prompt", .str prompt), ("duration", duration), ("resolution", .str "720p")]
  else
    -- Veo and every other long-run model
    .obj [("prompt", .str prompt), ("duration", duration), ("aspect_ratio", .str "16:9"),
      ("resolution", .str "720p"), ("generate_audio", .bool true)]

/-- The body of a video, from an image or from text alone. -/
def buildVideoParams (modelId prompt : String) (imageUrl : Option String)
    (opts : BuildVideoParamsOpts) : Json :=
  let prompt := clipPrompt prompt
  let uploadUrl := acceptedUploadUrl opts.uploadUrl
  let duration := videoDurationWire modelId opts
  match acceptedImage ["data:", "https://"] imageUrl with
  | some image => imageToVideoParams modelId prompt image duration uploadUrl
  | none => textToVideoParams modelId prompt duration uploadUrl

/-- What a song is asked for beside its prompt. -/
structure BuildMusicParamsOpts where
  isInstrumental : Option Bool
  lyricsOptimizer : Option Bool

/-- MiniMax Music body: both booleans are always sent. -/
def buildMusicParams (prompt : String) (lyrics : Option String) (opts : BuildMusicParamsOpts) :
    Json :=
  let text := (lyrics.map JsString.trim).getD ""
  let hasLyrics := text != ""
  -- what the caller leaves out follows from the lyrics
  let isInstrumental := opts.isInstrumental.getD (!hasLyrics)
  let lyricsOptimizer := opts.lyricsOptimizer.getD (!(hasLyrics || isInstrumental))
  .obj ([("prompt", .str (clipPrompt prompt)), ("is_instrumental", .bool isInstrumental),
    ("lyrics_optimizer", .bool lyricsOptimizer), ("format", .str "mp3")] ++
    if hasLyrics then [("lyrics", .str (clipPrompt text))] else [])

/-! ## Runs -/

/-- What the non-chat runner is called with. -/
structure NonChatRunRequest where
  upstreamModel : String
  billing : Billing
  modality : Modality
  params : Json
  auth : UpstreamAuth
  metadata : List (String × String)

/-- What the runner of a non-chat model ends in. -/
inductive NonChatRunResult where
  | ok (body : Json) (gatewayLogId : Option String)
  | upstreamError (status : Option Int) (detail : String)
  | timeout (waitedMs : Nat)
  | unavailable (detail : String)

/-! ## Answers -/

/-- A provider envelope that says it failed, and what it says. -/
def providerStateFailed (body : Json) : Option String :=
  (((body.strField "error").bind nonempty).map (JsString.slice · 200)) <|>
  (match body.strField "state" with
    | some state => if state ≠ "Completed" ∧ state ≠ "succeeded" then
        some ("provider state \"" ++ state ++ "\"") else none
    | none => none) <|>
  (match body.field "success" with
    | some (.bool false) => some "provider success=false"
    | _ => none)

/-- `value[0]`. -/
def Json.index0 : Json → Option Json
  | .arr (item :: _) => some item
  | .obj fields => fields.lookup "0"
  | _ => none

/-- `typeof value === "string"`. -/
def Json.string : Option Json → Option String
  | some (.str text) => some text
  | _ => none

/-- An image of a body, before its `result` is looked at. -/
def imageHere (body : Json) : Option String :=
  ((body.strField "image").bind nonempty) <|>
  ((body.strField "url").filter (startsWith · "http")) <|>
  (match body.field "images" with
    | some (.arr images) => Json.string images.head?
    | _ => none) <|>
  -- OpenAI's list: base64 before a url
  (match body.field "data" with
    | some (.arr (item :: _)) => ((item.strField "b64_json").bind nonempty) <|>
        ((item.strField "url").bind nonempty)
    | _ => none)

mutual

/-- The image of an answer, wrapped in `result` or not. -/
def extractImageRaw : Json → Option String
  | .obj fields => imageHere (.obj fields) <|> resultImage fields
  | _ => none

/-- The image of what is wrapped in `result`. -/
def resultImage : List (String × Json) → Option String
  | [] => none
  | (name, value) :: fields => if name = "result" then extractImageRaw value else resultImage fields

end

/-- `/^data:image\/[a-zA-Z0-9.+-]+;base64,(.+)$/` -/
def imageDataUrl : DataUrl.Pattern := ⟨false, false, DataUrl.family false "image/" DataUrl.isSubtype⟩

/-- The payload of an image data URL, or the text itself. -/
def stripDataUrl (s : String) : String :=
  match imageDataUrl.exec s with
  | some (_, data) => data
  | none => s

/-- An image as the client gets it: bytes or an address. -/
inductive ImageAsset where
  | b64Json (data : String)
  | url (address : String)
deriving Repr, DecidableEq

/-- Image asset from a provider body. -/
def extractImageAsset (body : Json) : Option ImageAsset :=
  ((extractImageRaw body).bind nonempty).map fun raw =>
    if startsWith raw "https://" ∨ startsWith raw "http://" then .url raw
    else if startsWith raw "data:image/" then .b64Json (stripDataUrl raw)
    else .b64Json raw

/-- The audio of an answer. -/
def extractAudioBase64 (body : Json) : Option String :=
  (body.strField "audio") <|> ((body.field "result").bind (·.strField "audio"))

/-- Deepgram's envelope: empty when it is there without a transcript. -/
def extractDeepgramTranscript (body : Json) : Option String :=
  let results := body.field "results"
  let alternative (holder : Option Json) : Option String :=
    (((holder.bind (·.field "alternatives")).bind Json.index0).bind
      (·.strField "transcript")).map JsString.trim
  let present (name : String) : Bool :=
    ((results.bind (·.field name)).map Json.truthy).getD false
  alternative ((results.bind (·.field "channels")).bind Json.index0) <|>
  alternative results <|>
  -- an envelope without a transcript is an answer without speech
  (if present "channels" || present "alternatives" then some "" else none) <|>
  ((body.strField "transcript").map JsString.trim) <|>
  ((body.strField "text").map JsString.trim)

/-- A transcript of a body, before its `result` is looked at. -/
def transcriptHere (body : Json) : Option String :=
  body.strField "text" <|> body.strField "transcript" <|> extractDeepgramTranscript body

mutual

/-- Transcript text. An empty one is a silent clip. -/
def extractTranscript : Json → Option String
  | .obj fields => transcriptHere (.obj fields) <|>
      resultTranscript ((Json.obj fields).strField "response") fields
  | _ => none

/-- The transcript of what is wrapped in `result`, or a plain `response`. -/
def resultTranscript (response : Option String) : List (String × Json) → Option String
  | [] => response
  | (name, value) :: fields =>
    if name = "result" then if value.isObject then extractTranscript value else response
    else resultTranscript response fields

end

/-- A media address of a body under a name, or under `url`, unless the body failed. -/
def mediaAsset (name : String) (body : Json) : Option String :=
  match providerStateFailed body with
  | some _ => none
  | none =>
    ((body.strField name).bind nonempty) <|>
    (((body.field "result").bind (·.strField name)).bind nonempty) <|>
    (((body.field "result").bind (·.strField "url")).bind nonempty) <|>
    ((body.strField "url").bind nonempty)

/-- The address of a video. -/
def extractVideoAsset (body : Json) : Option String := mediaAsset "video" body

/-- The address of a song. -/
def extractMusicAsset (body : Json) : Option String := mediaAsset "audio" body

/-- Models that routinely outlast a synchronous request. -/
def prefersAsyncImage (modelId : String) : Bool := modelId == "openai/gpt-image-2"

end ControlPlane
