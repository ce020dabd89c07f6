import ControlPlane.Spec.ChatBody

/-!
# The output limit that leaves the plane

One number is computed for a chat request, reported to the client and written into the
body. Each encoder has its own field for it; Gemini raises it to a floor, and a
multi-agent model is sent none.

## Key results

- `outputLimit_sentBody`: the limit in the body, by the shape of the body
- `chat_output_limit`: what every call of a run carries
-/

namespace ControlPlane

/-- The output-token limit of a body, under whichever name its provider reads. -/
def outputLimit (body : Json) : Option Int :=
  Json.integer ((body.field "max_tokens").or ((body.field "max_completion_tokens").or
    ((body.field "max_output_tokens").or
      ((body.field "generationConfig").bind (·.field "maxOutputTokens")))))

/-- The limit a body of a shape carries when `applied` is the plane's. -/
def BodyShape.limit (shape : BodyShape) (modelId : String) (applied : Int) : Option Int :=
  match shape with
  | .openAI | .anthropic | .responses => some applied
  | .gemini => some (max applied (geminiMinOutputTokens modelId))
  | .multiAgent => none

/-- A whole number is read as an integer. -/
theorem integer_intCast (n : Int) : Json.integer (some (.num n)) = some n := rfl

/-! ## Encoders -/

/-- The hosted body has the request's limit. -/
theorem outputLimit_upstreamBody (request : InferenceRequest) :
    outputLimit (upstreamBody request) = some request.maxTokens := by
  unfold outputLimit upstreamBody samplingFields streamFields
  -- the name of the field depends on the model
  obtain h | h := outputTokenField_cases request.upstreamModel
  · simp [h, integer_intCast]
  · simp [h, integer_intCast]

/-- So has the OpenAI body of the binding. -/
theorem outputLimit_openAIBindingBody (request : InferenceRequest) :
    outputLimit (openAIBindingBody request) = some request.maxTokens := by
  unfold outputLimit openAIBindingBody samplingFields streamFields
  simp [integer_intCast]

/-- So has the Anthropic body. -/
theorem outputLimit_anthropicBindingBody (request : InferenceRequest) :
    outputLimit (anthropicBindingBody request) = some request.maxTokens := by
  unfold outputLimit anthropicBindingBody
  simp [integer_intCast]

/-- The Gemini body has it, or the model's floor. -/
theorem outputLimit_geminiBindingBody (request : InferenceRequest) :
    outputLimit (geminiBindingBody request) =
      some (max request.maxTokens (geminiMinOutputTokens request.modelId)) := by
  unfold outputLimit geminiBindingBody
  simp only [Json.field_append, Json.field_cons, Json.field_nil, Json.field_optionalField,
    String.reduceEq, if_true, if_false, Option.or_none, Option.none_or,
    Option.bind_some]
  exact integer_intCast _

/-- The responses body has it, except for a multi-agent model. -/
theorem outputLimit_responsesBody (request : InferenceRequest) :
    outputLimit (responsesBody request) =
      if isMultiAgentModel request.upstreamModel then none else some request.maxTokens := by
  unfold outputLimit responsesBody
  -- a multi-agent model is sent no limit
  cases isMultiAgentModel request.upstreamModel <;> simp [Json.integer]

/-- The limit in the body of a request, by the shape of the body. -/
theorem outputLimit_sentBody {request : InferenceRequest} {entry : CatalogEntry}
    (h : request.Addresses entry) :
    outputLimit request.sentBody = entry.bodyShape.limit entry.id request.maxTokens := by
  refine h.sentBody_cases
    (motive := fun shape body => outputLimit body = shape.limit entry.id request.maxTokens)
    (outputLimit_upstreamBody request) (outputLimit_openAIBindingBody request)
    (outputLimit_anthropicBindingBody request) ?_ ?_ ?_
  · intro hid
    rw [outputLimit_geminiBindingBody, hid]
    rfl
  -- one body in two shapes, by whether the model is multi-agent
  · intro model hmodel
    rw [outputLimit_responsesBody]
    exact if_neg (by simp [hmodel])
  · intro model hmodel
    rw [outputLimit_responsesBody]
    exact if_pos hmodel

/-! ## Runs -/

/-- The applied limit is at most the plan's, and it is the one in the body of every call,
    raised to the floor of a Gemini model and left out for a multi-agent one. -/
theorem chat_output_limit (catalog : Catalog) (deps : GatewayRunnerDeps) (world : GatewayWorld)
    (gate : ChatGate) (req : ValidChatRequest) (request : InferenceRequest) (row : PlanRow)
    (hplan : planFromRow row = .ok gate.plan) (hrun : gate.runRequest req = .ok request) :
    gate.maxTokens req ≤ gate.plan.maxOutputTokens ∧
    ∀ call ∈ (runnerFor catalog deps world request).calls, call.transitsGateway = true →
      outputLimit call.body = gate.model.bodyShape.limit gate.model.id (gate.maxTokens req) := by
  constructor
  · obtain ⟨-, -, -, -, -, hcap⟩ := planFromRow_ok hplan
    exact effectiveMaxTokens_le _ _ hcap
  · intro call hcall htransits
    -- the body is the request's own, streamed or not
    obtain ⟨haddresses, -, hmax, -⟩ := ChatGate.runRequest_ok hrun
    obtain ⟨stream, hbody⟩ := runnerFor_body hcall htransits
    rw [hbody, outputLimit_sentBody (haddresses.withStream stream), ← hmax]

/-- A plan with a small cap. -/
def shortPlanRow : PlanRow := ⟨"short", "Short", 0, 0, 60, 128, "standard,premium"⟩

/-- A plan of 128 output tokens. -/
def shortPlan : Plan := ⟨"short", "Short", 0, 0, 60, 128, [.standard, .premium]⟩

/-- A Gemini model that is called through the binding. -/
def geminiFlash : CatalogEntry :=
  ⟨"google/gemini-3.5-flash", "google-ai-studio/gemini-3.5-flash", true, .chat, .chat,
    .unifiedBilling, .premium, none, none⟩

/-- An account on the short plan. -/
def shortGate : ChatGate :=
  ⟨"req-1", "acct", "client", shortPlan, geminiFlash, ⟨"token", "secret"⟩⟩

/-- Sixteen tokens are asked for. -/
def shortBody : Json :=
  .obj [("model", .str "google/gemini-3.5-flash"),
    ("messages", .arr [.obj [("role", .str "user"), ("content", .str "hi")]]),
    ("max_tokens", .num 16)]

/-- A request for 16 tokens. -/
def shortRequest : ValidChatRequest :=
  ⟨"google/gemini-3.5-flash", [⟨.user, "hi", []⟩], some 16, none, none, false, none, none⟩

/-- What the runner is called with. -/
def shortCall : InferenceRequest where
  upstreamModel := "google-ai-studio/gemini-3.5-flash"
  bindingModel := some "google/gemini-3.5-flash"
  api := .chat
  billing := .unifiedBilling
  messages := [⟨.user, "hi", []⟩]
  maxTokens := 16
  temperature := none
  topP := none
  stream := false
  auth := ⟨"token", "secret"⟩
  metadata := [("account_id", "acct"), ("client_id", "client"), ("plan_id", "short"),
    ("request_id", "req-1"), ("cf_token_id", "token")]

/-- The sample request is sent with the floor as its limit. -/
theorem chat_output_limit_short : shortGate.maxTokens shortRequest ≤ 128 ∧
    ∀ call ∈ (runnerFor [geminiFlash] bindingDeps silentWorld shortCall).calls,
      call.transitsGateway = true → outputLimit call.body = some 256 := by
  have h := chat_output_limit [geminiFlash] bindingDeps silentWorld shortGate shortRequest shortCall
    shortPlanRow rfl rfl
  have hlimit : shortGate.model.bodyShape.limit shortGate.model.id
      (shortGate.maxTokens shortRequest) = some 256 := by decide +kernel
  rwa [hlimit] at h

/-- Sixteen tokens are applied, and a Gemini model is given 256, above the cap of the plan. -/
theorem gemini_limit_raised :
    parseChatRequest shortBody = .ok shortRequest ∧
    planFromRow shortPlanRow = .ok shortGate.plan ∧
    shortGate.runRequest shortRequest = .ok shortCall ∧
    shortGate.maxTokens shortRequest = 16 ∧ shortGate.plan.maxOutputTokens = 128 ∧
    ∃ call ∈ (runnerFor [geminiFlash] bindingDeps silentWorld shortCall).calls,
      call.transitsGateway = true ∧ outputLimit call.body = some 256 := by
  -- the floor stands in the body, not what was asked for
  have hbody : outputLimit (geminiBindingBody shortCall) = some 256 := by
    rw [outputLimit_geminiBindingBody]
    decide +kernel
  refine ⟨rfl, rfl, rfl, rfl, rfl, .binding "google/gemini-3.5-flash" (bindingChatBody shortCall)
    (some (bindingGatewayOptions "gateway")), ?_, rfl, hbody⟩
  exact List.mem_singleton.mpr rfl

end ControlPlane
