import ControlPlane.Model.Routes.Chat
import ControlPlane.Model.Upstream

/-!
# The body a chat request is sent with

A chat model is reached on one of five shapes of body, known from its catalog entry.
Whatever the dispatch does, each call that goes through the gateway carries the body of
that shape.

## Key results

- `runnerFor_body`: the calls of a run carry the request's body
- `CatalogEntry.sentBody_eq`: the body by the shape of the entry
-/

namespace ControlPlane

open JsString (startsWith)

/-! ## Fields of a body -/

namespace Json

@[simp] theorem field_nil (name : String) : (Json.obj []).field name = none := rfl

@[simp] theorem field_cons (name : String) (f : String × Json) (fields : List (String × Json)) :
    (Json.obj (f :: fields)).field name =
      if name = f.1 then some f.2 else (Json.obj fields).field name := by
  show (List.lookup name (f :: fields)) = _
  rw [List.lookup_cons]
  by_cases h : name = f.1
  · rw [if_pos h, beq_iff_eq.mpr h]
  · rw [if_neg h, beq_eq_false_iff_ne.mpr h]
    rfl

@[simp] theorem field_append (name : String) (fields more : List (String × Json)) :
    (Json.obj (fields ++ more)).field name =
      ((Json.obj fields).field name).or ((Json.obj more).field name) := List.lookup_append

@[simp] theorem field_optionalField (name other : String) (value : Option Json) :
    (Json.obj (optionalField other value)).field name = if name = other then value else none := by
  cases value with
  | none => simp [optionalField]
  | some value => simp [optionalField]

@[simp] theorem field_fieldsIf (name : String) (condition : Bool) (fields : List (String × Json)) :
    (Json.obj (fieldsIf condition fields)).field name =
      if condition then (Json.obj fields).field name else none := by
  cases condition <;> rfl

end Json

theorem outputTokenField_cases (upstreamModel : String) :
    outputTokenField upstreamModel = "max_completion_tokens" ∨
    outputTokenField upstreamModel = "max_tokens" := by
  unfold outputTokenField
  split
  · exact .inl rfl
  · exact .inr rfl

/-! ## Dispatch -/

/-- A call that the gateway sees: one of its own addresses, one that names it, or a
    binding call with the gateway's options. -/
def UpstreamCall.transitsGateway {β : Type} : UpstreamCall β → Bool
  | .http url headers _ => startsWith url GATEWAY_HOST || (headers.lookup "cf-aig-gateway-id").isSome
  | .binding _ _ opts => opts.isSome

/-- The body of a request, before the dispatch turns a buffered stream off. -/
def InferenceRequest.sentBody (request : InferenceRequest) : Json :=
  match request.bindingModel with
  | some _ => bindingChatBody request
  | none => if request.api = .responses then responsesBody request else upstreamBody request

/-- The licence is accepted on the other host, which is no gateway. -/
theorem agreeCall_transits (deps : GatewayRunnerDeps) (request : InferenceRequest) :
    (agreeCall deps request).transitsGateway = false := by
  have hhost : startsWith (CF_API_HOST ++ ("/client/v4/accounts/" ++ deps.accountId ++ "/ai/run/" ++
      VISION_AGREE_MODEL)) GATEWAY_HOST = false := by
    unfold startsWith
    rw [String.toList_append]
    rfl
  simp only [String.append_assoc] at hhost
  simp only [agreeCall, UpstreamCall.transitsGateway, String.append_assoc, hhost, Bool.false_or]
  rfl

/-- Every call of a run that the gateway sees carries the body of the request, with or
    without the stream. -/
theorem runnerFor_body {catalog : Catalog} {deps : GatewayRunnerDeps} {world : GatewayWorld}
    {request : InferenceRequest} {call : UpstreamCall Json}
    (hcall : call ∈ (runnerFor catalog deps world request).calls)
    (htransits : call.transitsGateway = true) :
    ∃ stream, call.body = { request with stream := stream }.sentBody := by
  obtain ⟨upstreamModel, bindingModel, api, billing, messages, maxTokens, temperature, topP, stream,
    auth, metadata⟩ := request
  unfold runnerFor at hcall
  cases bindingModel with
  | some bindingModel =>
    dsimp only [runViaBinding] at hcall
    split at hcall
    · cases hcall
    split at hcall
    · cases hcall
    split at hcall
    next =>
      -- a buffered stream asks for no stream
      rw [List.mem_singleton.mp hcall]
      exact ⟨false, rfl⟩
    next =>
      rw [List.mem_singleton.mp hcall]
      exact ⟨stream, rfl⟩
  | none =>
    have hbody (request : InferenceRequest) (h : request.bindingModel = none) :
        (httpCall deps request).body = request.sentBody := by
      unfold httpCall InferenceRequest.sentBody
      rw [h]
      dsimp only
      split <;> rfl
    dsimp only at hcall
    split at hcall
    next =>
      -- the call, the agreement and the call once more; the agreement bypasses the gateway
      simp only [List.mem_cons, List.not_mem_nil, or_false] at hcall
      obtain rfl | rfl | rfl := hcall
      · exact ⟨stream, hbody _ rfl⟩
      · rw [agreeCall_transits] at htransits
        cases htransits
      · exact ⟨stream, hbody _ rfl⟩
    next =>
      rw [List.mem_singleton.mp hcall]
      exact ⟨stream, hbody _ rfl⟩

/-! ## Shapes -/

/-- The shapes of body a chat call is sent with. -/
inductive BodyShape where
  | openAI
  | anthropic
  | gemini
  | responses
  /-- Responses, for a model that takes no output limit. -/
  | multiAgent
deriving Repr, DecidableEq

/-- The shape of the body an entry is reached with. -/
def CatalogEntry.bodyShape (entry : CatalogEntry) : BodyShape :=
  if entry.binding then
    if isMultiAgentModel entry.id then .multiAgent
    else if entry.api = .responses then .responses
    else if isGeminiModel entry.id then .gemini
    else if startsWith entry.id "anthropic/" then .anthropic
    else .openAI
  else if entry.api = .responses then
    if isMultiAgentModel entry.upstream then .multiAgent else .responses
  else .openAI

/-- The request of an entry: where it goes is what the entry says. -/
structure InferenceRequest.Addresses (request : InferenceRequest) (entry : CatalogEntry) :
    Prop where
  upstreamModel : request.upstreamModel = entry.upstream
  bindingModel : request.bindingModel = if entry.binding then some entry.id else none
  api : request.api = entry.api

/-- The stream does not change where a request goes. -/
theorem InferenceRequest.Addresses.withStream {request : InferenceRequest} {entry : CatalogEntry}
    (h : request.Addresses entry) (stream : Bool) :
    { request with stream := stream }.Addresses entry :=
  ⟨h.upstreamModel, h.bindingModel, h.api⟩

/-- The request of a gate, which the image field refuses. -/
theorem ChatGate.runRequest_ok {gate : ChatGate} {req : ValidChatRequest} {request : InferenceRequest}
    (h : gate.runRequest req = .ok request) :
    request.Addresses gate.model ∧ request.messages = req.messages ∧
      request.maxTokens = gate.maxTokens req ∧ request.temperature = req.temperature ∧
      request.topP = req.topP := by
  unfold runRequest at h
  split at h
  · cases h
  · obtain rfl := Except.ok.inj h
    exact ⟨⟨rfl, rfl, rfl⟩, rfl, rfl, rfl, rfl⟩

/-- The model name of the provider: `xai/` is `grok/` there. -/
theorem isMultiAgentModel_replacePrefix (modelId : String) :
    isMultiAgentModel (JsString.replacePrefix modelId "xai/" "grok/") = isMultiAgentModel modelId := by
  unfold JsString.replacePrefix
  split
  next hprefix =>
    obtain ⟨rest, hrest⟩ := List.isPrefixOf_iff_prefix.mp hprefix
    have hdrop : modelId.toList.drop "xai/".toList.length = rest := by
      rw [← hrest, List.drop_left]
    rw [hdrop]
    unfold isMultiAgentModel JsString.includes
    rw [← hrest, String.toList_append, String.toList_ofList, String.toList_ofList]
    -- no occurrence starts inside either prefix
    rfl
  next => rfl

/-- The bodies a request of an entry may have, with the shape of each. -/
theorem InferenceRequest.Addresses.sentBody_cases {request : InferenceRequest} {entry : CatalogEntry}
    (h : request.Addresses entry) {motive : BodyShape → Json → Prop}
    (openAI : motive .openAI (upstreamBody request))
    (openAIBinding : motive .openAI (openAIBindingBody request))
    (anthropic : motive .anthropic (anthropicBindingBody request))
    (gemini : request.modelId = entry.id → motive .gemini (geminiBindingBody request))
    (responses : ∀ model, isMultiAgentModel model = false →
      motive .responses (responsesBody { request with upstreamModel := model }))
    (multiAgent : ∀ model, isMultiAgentModel model = true →
      motive .multiAgent (responsesBody { request with upstreamModel := model })) :
    motive entry.bodyShape request.sentBody := by
  unfold CatalogEntry.bodyShape InferenceRequest.sentBody
  cases hbinding : entry.binding with
  | true =>
    have hmodel : request.bindingModel = some entry.id := by
      rw [h.bindingModel, if_pos hbinding]
    have hid : request.modelId = entry.id := by
      rw [InferenceRequest.modelId, hmodel, Option.getD_some]
    rw [hmodel]
    dsimp only [bindingChatBody]
    rw [hid, h.api, if_pos rfl]
    -- the binding looks for a multi-agent model first, then at the API, then at the vendor
    by_cases hmulti : isMultiAgentModel entry.id = true
    · rw [if_pos hmulti, if_pos (Or.inr hmulti)]
      exact multiAgent _ ((isMultiAgentModel_replacePrefix _).trans hmulti)
    rw [if_neg hmulti]
    by_cases hapi : entry.api = .responses
    · rw [if_pos hapi, if_pos (Or.inl hapi)]
      exact responses _ ((isMultiAgentModel_replacePrefix _).trans (Bool.not_eq_true _ ▸ hmulti))
    have hresponses : ¬(entry.api = .responses ∨ isMultiAgentModel entry.id = true) := by
      rintro (h | h)
      · exact hapi h
      · exact hmulti h
    rw [if_neg hapi, if_neg hresponses]
    split
    · exact gemini hid
    split
    · exact anthropic
    · exact openAIBinding
  | false =>
    have hmodel : request.bindingModel = none := by
      rw [h.bindingModel, hbinding]
      rfl
    -- over HTTP the model that is asked for is the upstream's name
    have hsame : request = { request with upstreamModel := entry.upstream } := by
      rw [← h.upstreamModel]
    rw [hmodel]
    dsimp only
    rw [if_neg Bool.false_ne_true, h.api]
    by_cases hapi : entry.api = .responses
    · rw [if_pos hapi, if_pos hapi, hsame]
      cases hmulti : isMultiAgentModel entry.upstream with
      | true => exact multiAgent _ hmulti
      | false => exact responses _ hmulti
    · rw [if_neg hapi, if_neg hapi]
      exact openAI

/-! ## A deployment -/

/-- A deployment with the AI binding. -/
def bindingDeps : GatewayRunnerDeps := ⟨"account", "gateway", 60000, true, true⟩

/-- A world in which nothing answers in time. -/
def silentWorld : GatewayWorld := ⟨fun _ => .timeout 60000, fun _ => .timeout 60000,
  fun _ => .timeout 60000⟩

end ControlPlane
