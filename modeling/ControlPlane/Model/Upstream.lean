import ControlPlane.Model.AnthropicSse
import ControlPlane.Model.ChatRequest

/-!
# The chat runner

`src/upstream.ts`: the bodies that a chat request becomes, and its dispatch to the
gateway or to the binding.
-/

namespace ControlPlane

open JsonText (JsStr)
open JsString (startsWith)

/-! ## Calls -/

/-- The host of the AI Gateway. -/
def GATEWAY_HOST : String := "https://gateway.ai.cloudflare.com"

/-- The host of the REST API, which is no gateway. -/
def CF_API_HOST : String := "https://api.cloudflare.com"

/-- The header that keeps payloads out of the gateway's log. -/
def COLLECT_LOG_PAYLOAD_HEADER : String := "cf-aig-collect-log-payload"

/-- The options of a binding call that goes through the gateway. -/
structure BindingGatewayOptions where
  gatewayId : String
  extraHeaders : List (String × String)

/-- A call that leaves the plane, with a body of type `β`. -/
inductive UpstreamCall (β : Type) where
  | http (url : String) (headers : List (String × String)) (body : β)
  | binding (model : String) (params : β) (opts : Option BindingGatewayOptions)

/-- What a call sends. -/
def UpstreamCall.body {β : Type} : UpstreamCall β → β
  | .http _ _ body => body
  | .binding _ params _ => params

/-- The options of a binding call: the gateway, and no payload kept. -/
def bindingGatewayOptions (gatewayId : String) : BindingGatewayOptions :=
  ⟨gatewayId, [(COLLECT_LOG_PAYLOAD_HEADER, "false")]⟩

/-- What the runner is built with. -/
structure GatewayRunnerDeps where
  accountId : String
  gatewayId : String
  timeoutMs : Nat
  collectLog : Bool
  /-- Whether the deployment has the AI binding. -/
  ai : Bool

/-- `JSON.stringify` of a record of texts. -/
def stringifyMetadata (metadata : List (String × String)) : String :=
  String.ofList (JsonText.stringify (JsonText.object
    (metadata.map fun entry => (entry.1, JsonText.text entry.2))))

/-- A switch as a header has it. -/
def logSwitch (collectLog : Bool) : String := if collectLog then "true" else "false"

/-! ## Addresses -/

/-- The endpoint of a billing. -/
def endpointFor : Billing → String
  | .workersAi => "workers-ai/v1/chat/completions"
  | .unifiedBilling => "compat/chat/completions"

/-- The address of the account's gateway. -/
def gatewayBase (deps : GatewayRunnerDeps) : String :=
  GATEWAY_HOST ++ "/v1/" ++ deps.accountId ++ "/" ++ JsString.encodeURIComponent deps.gatewayId

/-- The address of a chat completion. -/
def upstreamUrl (deps : GatewayRunnerDeps) (billing : Billing) : String :=
  gatewayBase deps ++ "/" ++ endpointFor billing

/-- A model that runs several agents. -/
def isMultiAgentModel (modelId : String) : Bool := JsString.includes modelId "multi-agent"

/-- The address of a Responses call. -/
def responsesUrl (deps : GatewayRunnerDeps) (request : InferenceRequest) : String :=
  gatewayBase deps ++
    if isMultiAgentModel request.upstreamModel then "/grok/v1/responses" else "/openai/v1/responses"

/-! ## Bodies -/

/-- Which output-token field an OpenAI-shaped body uses. -/
def outputTokenField (upstreamModel : String) : String :=
  -- these families refuse the older name
  if startsWith upstreamModel "openai/" || startsWith upstreamModel "xai/" ||
      startsWith upstreamModel "grok/" then "max_completion_tokens"
  else "max_tokens"

/-- A field that is sent when it has a value. -/
def optionalField (name : String) (value : Option Json) : List (String × Json) :=
  (value.map fun value => (name, value)).toList

/-- Fields that are sent on a condition. -/
def fieldsIf (condition : Bool) (fields : List (String × Json)) : List (String × Json) :=
  if condition then fields else []

/-- The name of a role. -/
def roleName : ChatRole → String
  | .system => "system"
  | .user => "user"
  | .assistant => "assistant"

/-- A message as an OpenAI body has it, images before the text. -/
def toOpenAIMessage (m : ChatTurn) : Json :=
  if m.images.isEmpty then .obj [("role", .str (roleName m.role)), ("content", .str m.content)]
  else
    -- a content of parts only where there are images
    let parts := m.images.map fun url =>
      Json.obj [("type", .str "image_url"), ("image_url", .obj [("url", .str url)])]
    .obj [("role", .str (roleName m.role)),
      ("content", .arr (parts ++ [.obj [("type", .str "text"),
        ("text", .str (if m.content = "" then " " else m.content))]]))]

/-- Asking for the trailing usage frame is what makes a stream chargeable. -/
def streamFields (stream : Bool) : List (String × Json) :=
  fieldsIf stream [("stream", .bool true),
    ("stream_options", .obj [("include_usage", .bool true)])]

/-- `temperature` and `top_p`, where the client set them. -/
def samplingFields (request : InferenceRequest) (topPName : String) : List (String × Json) :=
  optionalField "temperature" (request.temperature.map .num) ++
    optionalField topPName (request.topP.map .num)

/-- The OpenAI-shaped body of the HTTP path. -/
def upstreamBody (request : InferenceRequest) : Json :=
  .obj ([("model", .str request.upstreamModel),
    ("messages", .arr (request.messages.map toOpenAIMessage)),
    (outputTokenField request.upstreamModel, .num request.maxTokens)] ++
    samplingFields request "top_p" ++ streamFields request.stream)

/-- The texts of the system turns that are not blank. -/
def systemParts (messages : List ChatTurn) : List String :=
  messages.filterMap fun m =>
    if m.role = .system ∧ JsString.trim m.content ≠ "" then some m.content else none

/-- The system turns as one text, when there is any. -/
def joinedSystem (messages : List ChatTurn) : Option String :=
  if (systemParts messages).isEmpty then none
  else some (String.intercalate "\n\n" (systemParts messages))

/-- The turns that are not hoisted. -/
def dialogue (messages : List ChatTurn) : List ChatTurn := messages.filter (·.role ≠ .system)

/-- The body of a Responses call. -/
def responsesBody (request : InferenceRequest) : Json :=
  let multiAgent := isMultiAgentModel request.upstreamModel
  let model := JsString.replacePrefix (JsString.replacePrefix (JsString.replacePrefix
    request.upstreamModel "openai/" "") "grok/" "") "xai/" ""
  let input := (dialogue request.messages).map fun m =>
    Json.obj [("role", .str (roleName m.role)), ("content", .str m.content)]
  -- neither images nor sampling parameters are read here
  .obj ([("model", .str model), ("input", .arr input)] ++
    fieldsIf (!multiAgent) [("max_output_tokens", .num request.maxTokens)] ++
    optionalField "instructions" ((joinedSystem request.messages).map .str) ++
    fieldsIf request.stream [("stream", .bool true)] ++
    fieldsIf multiAgent [("reasoning", .obj [("effort", .str "low")])])

/-! ### Turns as blocks -/

/-- One block of a turn, for the providers that take blocks. -/
inductive TurnBlock where
  | text (text : String)
  | image (mediaType data : String)
deriving Repr, DecidableEq

/-- A turn of text and image blocks. -/
structure BlockTurn where
  role : ChatRole
  content : List TurnBlock
deriving Repr, DecidableEq

/-- The images of a turn that can be sent inline. -/
def imageBlocks (m : ChatTurn) : List TurnBlock :=
  m.images.filterMap fun url => (inlineImage url).map fun image => .image image.1 image.2

/-- The blocks of a message. -/
def turnBlocks (m : ChatTurn) : List TurnBlock :=
  imageBlocks m ++
    -- a blank text is sent only where nothing else would be
    if JsString.trim m.content ≠ "" ∨ imageBlocks m = [] then
      [.text (if m.content = "" then " " else m.content)]
    else []

/-- Two texts of one turn. -/
def joinTexts (a b : String) : String := if a = "" then b else a ++ "\n\n" ++ b

/-- Join a text to the last text block, when there is one. -/
def mergeText (new : String) : List TurnBlock → Option (List TurnBlock)
  | [] => none
  | block :: blocks =>
    -- the last text of the turn takes it, not the first
    match mergeText new blocks with
    | some merged => some (block :: merged)
    | none =>
      match block with
      | .text old => some (.text (joinTexts old new) :: blocks)
      | .image _ _ => none

/-- Append a block, joined to the text before it where both are text. -/
def pushBlock (content : List TurnBlock) (block : TurnBlock) : List TurnBlock :=
  match block with
  | .text new => (mergeText new content).getD (content ++ [block])
  | .image _ _ => content ++ [block]

/-- Add a turn, merging it with the last one of the same role: the providers want strict
    alternation. -/
def addTurn (turns : List BlockTurn) (m : ChatTurn) : List BlockTurn :=
  match turns.getLast? with
  | some last =>
    if last.role = m.role then
      turns.dropLast ++ [{ last with content := (turnBlocks m).foldl pushBlock last.content }]
    else turns ++ [⟨m.role, turnBlocks m⟩]
  | none => [⟨m.role, turnBlocks m⟩]

/-- The alternating turns of a request. Leading assistant turns are invalid and dropped. -/
def alternatingTurns (messages : List ChatTurn) : List BlockTurn :=
  ((dialogue messages).foldl addTurn []).dropWhile (·.role = .assistant)

/-! ### Binding bodies -/

/-- A block as an Anthropic body has it. -/
def anthropicBlock : TurnBlock → Json
  | .text text => .obj [("type", .str "text"), ("text", .str text)]
  | .image mediaType data => .obj [("type", .str "image"), ("source", .obj
      [("type", .str "base64"), ("media_type", .str mediaType), ("data", .str data)])]

/-- The body of an Anthropic binding model. -/
def anthropicBindingBody (request : InferenceRequest) : Json :=
  let messages := (alternatingTurns request.messages).map fun turn =>
    Json.obj [("role", .str (roleName turn.role)), ("content", .arr (turn.content.map anthropicBlock))]
  .obj ([("max_tokens", .num request.maxTokens), ("messages", .arr messages)] ++
    optionalField "system" ((joinedSystem request.messages).map .str) ++
    fieldsIf request.stream [("stream", .bool true)] ++ samplingFields request "top_p")

/-- A block as a Gemini body has it. -/
def geminiPart : TurnBlock → Json
  | .text text => .obj [("text", .str text)]
  | .image mediaType data => .obj [("inlineData", .obj
      [("mimeType", .str mediaType), ("data", .str data)])]

/-- The name of a role in a Gemini body. -/
def geminiRole : ChatRole → String
  | .assistant => "model"
  | role => roleName role

/-- `/gemini-.*-pro|gemini-3\.1-pro/i` -/
def isGeminiPro (modelId : String) : Bool :=
  (JsString.toLowerCase modelId).toList.tails.any fun rest =>
    "gemini-".toList.isPrefixOf rest &&
      JsString.includes (String.ofList ((rest.drop 7).takeWhile DataUrl.isDot)) "-pro"

/-- The least output budget a Gemini model is given. -/
def geminiMinOutputTokens (modelId : String) : Int := if isGeminiPro modelId then 1024 else 256

/-- The model id a binding body is built for. -/
def InferenceRequest.modelId (request : InferenceRequest) : String :=
  request.bindingModel.getD request.upstreamModel

/-- The body of a Gemini model. -/
def geminiBindingBody (request : InferenceRequest) : Json :=
  let contents := (alternatingTurns request.messages).map fun turn =>
    Json.obj [("role", .str (geminiRole turn.role)), ("parts", .arr (turn.content.map geminiPart))]
  -- thinking is paid out of the same budget, so there is a floor
  let budget := max request.maxTokens (geminiMinOutputTokens request.modelId)
  .obj ([("contents", .arr contents),
    ("generationConfig", .obj (("maxOutputTokens", .num budget) :: samplingFields request "topP"))] ++
    optionalField "systemInstruction" ((joinedSystem request.messages).map fun text =>
      .obj [("parts", .arr [.obj [("text", .str text)]])]))

/-- The OpenAI-shaped body of a binding model. -/
def openAIBindingBody (request : InferenceRequest) : Json :=
  .obj ([("messages", .arr (request.messages.map toOpenAIMessage)),
    ("max_completion_tokens", .num request.maxTokens)] ++ streamFields request.stream ++
    samplingFields request "top_p")

/-- Gemini ids, public and upstream. -/
def isGeminiModel (modelId : String) : Bool :=
  startsWith modelId "google/gemini" || startsWith modelId "google-ai-studio/"

/-- The body of a binding call, by the model's family. -/
def bindingChatBody (request : InferenceRequest) : Json :=
  -- the multi-agent models are served by one API only
  if request.api = .responses ∨ isMultiAgentModel request.modelId then
    responsesBody { request with
      upstreamModel := JsString.replacePrefix request.modelId "xai/" "grok/" }
  else if isGeminiModel request.modelId then geminiBindingBody request
  else if startsWith request.modelId "anthropic/" then anthropicBindingBody request
  else openAIBindingBody request

/-! ## Dispatch -/

/-- The headers of one HTTP call. -/
def upstreamHeaders (request : InferenceRequest) (deps : GatewayRunnerDeps) :
    List (String × String) :=
  -- the payload is never kept, the log itself by the deployment's choice
  [("cf-aig-authorization", "Bearer " ++ request.auth.value),
    (COLLECT_LOG_PAYLOAD_HEADER, "false"),
    ("cf-aig-collect-log", logSwitch deps.collectLog),
    ("cf-aig-metadata", stringifyMetadata request.metadata),
    ("content-type", "application/json"),
    ("accept", if request.stream then "text/event-stream" else "application/json")]

/-- What the outside makes of the calls of a run. -/
structure GatewayWorld where
  /-- What `fetchOnce` ends in, and what it ends in after the agreement. -/
  fetch : UpstreamCall Json → InferenceResult
  refetch : UpstreamCall Json → InferenceResult
  /-- What the race of a binding call with its timer ends in. -/
  runBinding : UpstreamCall Json → InferenceResult

/-- The calls of a run, in order, and its result. -/
structure InferenceRun where
  calls : List (UpstreamCall Json)
  result : InferenceResult

/-- Binding chat is only for catalog entries that say so. -/
def isAllowedBindingChatModel (catalog : Catalog) (bindingModel : String) : Bool :=
  match catalog.findModel bindingModel with
  -- the id must be the catalog's own, not its upstream name
  | some entry => entry.modality = .chat && entry.binding && entry.id = bindingModel
  | none => false

/-- Whether a stream is answered from a call that does not stream. -/
def isBufferedNativeStream (request : InferenceRequest) (bindingModel : String) : Bool :=
  request.stream && (startsWith bindingModel "anthropic/" || isGeminiModel bindingModel)

/-- Run a model through the binding. -/
def runViaBinding (catalog : Catalog) (deps : GatewayRunnerDeps) (world : GatewayWorld)
    (request : InferenceRequest) (bindingModel : String) : InferenceRun :=
  if !deps.ai then
    ⟨[], .upstreamError none ("This model requires the Worker AI binding (catalog binding: true). " ++
      "Add [ai] binding = \"AI\" to wrangler config.")⟩
  else if !isAllowedBindingChatModel catalog bindingModel then
    ⟨[], .upstreamError none ("Model is not allowlisted for AI binding dispatch: " ++
      JsString.slice bindingModel 80)⟩
  else
    let call (request : InferenceRequest) := UpstreamCall.binding bindingModel
      (bindingChatBody request) (some (bindingGatewayOptions deps.gatewayId))
    -- the provider is asked for one answer, and this plane cuts it into a stream
    if isBufferedNativeStream request bindingModel then
      ⟨[call { request with stream := false }], .stream none⟩
    else ⟨[call request], world.runBinding (call request)⟩

/-- The model whose licence must be agreed to. -/
def VISION_AGREE_MODEL : String := "@cf/meta/llama-3.2-11b-vision-instruct"

/-- A refusal that asks for the agreement. -/
def isModelAgreementError (status : Int) (detail : String) : Bool :=
  let d := JsString.toLowerCase detail
  status == 403 && (JsString.includes d "model agreement" ||
    JsString.includes d "submit the prompt 'agree'" ||
    JsString.includes d "submit the prompt \"agree\"")

/-- Whether a first answer asks for the licence to be accepted. -/
def asksForAgreement (request : InferenceRequest) (result : InferenceResult) : Bool :=
  match result with
  | .upstreamError (some status) detail => isModelAgreementError status detail &&
      (request.upstreamModel == VISION_AGREE_MODEL ||
        JsString.includes request.upstreamModel "llama-3.2-11b-vision")
  | _ => false

/-- The one-time acceptance of a model's licence. -/
def agreeCall (deps : GatewayRunnerDeps) (request : InferenceRequest) : UpstreamCall Json :=
  .http (CF_API_HOST ++ "/client/v4/accounts/" ++ deps.accountId ++ "/ai/run/" ++ VISION_AGREE_MODEL)
    [("authorization", "Bearer " ++ request.auth.value), ("content-type", "application/json")]
    (.obj [("prompt", .str "agree")])

/-- The call of a request that is not reached through the binding. -/
def httpCall (deps : GatewayRunnerDeps) (request : InferenceRequest) : UpstreamCall Json :=
  -- the API decides both the address and the body
  if request.api = .responses then
    .http (responsesUrl deps request) (upstreamHeaders request deps) (responsesBody request)
  else
    .http (upstreamUrl deps request.billing) (upstreamHeaders request deps) (upstreamBody request)

/-- The runner: one call, or the call, the acceptance and the call again. -/
def runnerFor (catalog : Catalog) (deps : GatewayRunnerDeps) (world : GatewayWorld)
    (request : InferenceRequest) : InferenceRun :=
  match request.bindingModel with
  | some bindingModel => runViaBinding catalog deps world request bindingModel
  | none =>
    let call := httpCall deps request
    let first := world.fetch call
    if asksForAgreement request first then
      ⟨[call, agreeCall deps request, call], world.refetch call⟩
    else ⟨[call], first⟩

/-! ## Buffered streams -/

/-- What the call behind a buffered stream resolves to, from the body the binding
    returned. `thrown` is the message of the `TypeError` a reader may throw. -/
def deferredCompletion (bindingModel : String) (thrown : JsStr) (body : Json) :
    Except JsStr DeferredCompletionResult :=
  match extractText body with
  | .error _ => .error thrown
  | .ok none => .error (Utf16.encode ((if JsString.startsWith bindingModel "google/" then "Gemini"
      else "Anthropic") ++ " binding returned no extractable text"))
  | .ok (some text) =>
    let usage := extractUsage body
    .ok ⟨Utf16.encode text, usage.map (·.inputTokens), usage.map (·.outputTokens)⟩

/-- A native stream that is not one: the model is called without streaming, and its
    answer is sent as a chat-completions stream. -/
def bufferedNativeStream (state : AnthropicToOpenAIState) (keepalives : Nat) (bindingModel : String)
    (thrown : JsStr) (body : Json) : List String :=
  openAIStreamFromDeferredCompletion state keepalives (deferredCompletion bindingModel thrown body)

end ControlPlane
