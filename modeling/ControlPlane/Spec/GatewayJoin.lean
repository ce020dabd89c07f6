import ControlPlane.Model.Routes.LongrunWorkflow
import ControlPlane.Spec.ChatBody
import ControlPlane.Spec.NonChatCalls
import ControlPlane.Spec.NonChatRecorded

/-!
# What the gateway can tell of a call

A row of the gateway's log is joined to the ledger by the request id in the metadata of
its call. The gateway keeps five entries. A call over HTTP that a door makes carries five;
the workflow writes six, and binding calls carry none.

## Key results

- `parse_stringifyMetadata`: the header is read back as it was written
- `GatewayRequest.chat_joinable`, `GatewayRequest.nonChat_joinable`: the calls of a door
- `gateway_joinable`: every call that the gateway sees opts out of payloads, and those that can
  be joined are those of a door over HTTP
-/

namespace ControlPlane

open JsonText (JsStr)

/-! ## Calls -/

namespace UpstreamCall

variable {β : Type}

/-- A call without its body. -/
def bare : UpstreamCall β → UpstreamCall Unit
  | .http url headers _ => .http url headers ()
  | .binding model _ opts => .binding model () opts

/-- A call without its body goes the same way. -/
@[simp] theorem transitsGateway_bare (call : UpstreamCall β) :
    call.bare.transitsGateway = call.transitsGateway := by
  cases call <;> rfl

/-- A header of a call, or of the options of a binding call. -/
def header (call : UpstreamCall β) (name : String) : Option String :=
  match call with
  | .http _ headers _ => headers.lookup name
  | .binding _ _ opts => opts.bind fun opts => opts.extraHeaders.lookup name

/-- And has the same headers. -/
@[simp] theorem header_bare (call : UpstreamCall β) (name : String) :
    call.bare.header name = call.header name := by
  cases call <;> rfl

/-- The custom metadata of a call. -/
def metadata (call : UpstreamCall β) : Option (List (JsStr × JsonText.Value)) :=
  match (call.header "cf-aig-metadata").bind fun text => JsonText.parse text.toList with
  | some (.obj entries) => some entries
  | _ => none

/-- The entries the gateway keeps. -/
def METADATA_CAP : Nat := 5

/-- A call whose row holds no payload, and names its request and its account. -/
structure Joinable (call : UpstreamCall β) (requestId accountId : String) : Prop where
  optOut : call.header COLLECT_LOG_PAYLOAD_HEADER = some "false"
  named : ∃ entries, call.metadata = some entries ∧ entries.length ≤ METADATA_CAP ∧
    (Utf16.encode "request_id", JsonText.text requestId) ∈ entries ∧
    (Utf16.encode "account_id", JsonText.text accountId) ∈ entries

/-- And is joinable alike. -/
theorem joinable_bare (call : UpstreamCall β) (requestId accountId : String) :
    call.bare.Joinable requestId accountId ↔ call.Joinable requestId accountId := by
  have hmetadata : call.bare.metadata = call.metadata := by
    unfold metadata
    rw [header_bare]
  constructor
  · intro h
    exact ⟨header_bare call _ ▸ h.optOut, hmetadata ▸ h.named⟩
  · intro h
    exact ⟨(header_bare call _).trans h.optOut, hmetadata.symm ▸ h.named⟩

end UpstreamCall

/-! ## Metadata -/

/-- The entries of a header, as they are read. -/
def metadataEntries (metadata : List (String × String)) : List (JsStr × JsonText.Value) :=
  metadata.map fun entry => (Utf16.encode entry.1, JsonText.text entry.2)

/-- The metadata written is read back as its entries. -/
theorem parse_stringifyMetadata {metadata : List (String × String)}
    (hnames : (metadata.map Prod.fst).Nodup) :
    JsonText.parse (stringifyMetadata metadata).toList = some (.obj (metadataEntries metadata)) := by
  -- texts under different names are read back as they were
  have hcanonical : JsonText.Canonical (JsonText.object
      (metadata.map fun entry => (entry.1, JsonText.text entry.2))) := by
    apply JsonText.canonical_object
    · rwa [List.map_map]
    · intro field hfield
      obtain ⟨entry, -, rfl⟩ := List.mem_map.mp hfield
      trivial
  rw [stringifyMetadata, String.toList_ofList, JsonText.parse_stringify hcanonical,
    JsonText.object, List.map_map]
  rfl

/-- A call that writes its metadata in the header. -/
theorem UpstreamCall.metadata_of_header {β : Type} {call : UpstreamCall β}
    {metadata : List (String × String)}
    (hheader : call.header "cf-aig-metadata" = some (stringifyMetadata metadata))
    (hnames : (metadata.map Prod.fst).Nodup) :
    call.metadata = some (metadataEntries metadata) := by
  rw [UpstreamCall.metadata, hheader, Option.bind_some, parse_stringifyMetadata hnames]

/-- The five entries of a door: the two ids are among them. -/
theorem UpstreamCall.joinable_of_header {β : Type} {call : UpstreamCall β}
    {accountId clientId planId requestId tokenId : String}
    (hoptOut : call.header COLLECT_LOG_PAYLOAD_HEADER = some "false")
    (hheader : call.header "cf-aig-metadata" = some (stringifyMetadata
      [("account_id", accountId), ("client_id", clientId), ("plan_id", planId),
        ("request_id", requestId), ("cf_token_id", tokenId)])) :
    call.Joinable requestId accountId where
  optOut := hoptOut
  named := by
    have hnames : ["account_id", "client_id", "plan_id", "request_id", "cf_token_id"].Nodup := by
      decide
    refine ⟨_, metadata_of_header hheader hnames, Nat.le_refl 5, ?_, ?_⟩
    · exact List.mem_map.mpr ⟨("request_id", requestId), by simp, rfl⟩
    · exact List.mem_map.mpr ⟨("account_id", accountId), by simp, rfl⟩

/-- A sixth entry is one too many. -/
theorem UpstreamCall.not_joinable_of_header {β : Type} {call : UpstreamCall β}
    {metadata : List (String × String)} {requestId accountId : String}
    (hheader : call.header "cf-aig-metadata" = some (stringifyMetadata metadata))
    (hnames : (metadata.map Prod.fst).Nodup) (hmany : METADATA_CAP < metadata.length) :
    ¬call.Joinable requestId accountId := by
  intro h
  obtain ⟨entries, hentries, hcap, -⟩ := h.named
  obtain rfl := Option.some.inj (hentries.symm.trans (metadata_of_header hheader hnames))
  rw [metadataEntries, List.length_map] at hcap
  omega

/-- A binding call has no place for metadata in the options it is given. -/
theorem binding_not_joinable {β : Type} (model : String) (params : β) (gatewayId requestId
    accountId : String) : ¬(UpstreamCall.binding model params
      (some (bindingGatewayOptions gatewayId))).Joinable requestId accountId := by
  intro h
  obtain ⟨entries, hentries, -⟩ := h.named
  have hnone : (UpstreamCall.binding model params
      (some (bindingGatewayOptions gatewayId))).metadata = none := rfl
  rw [hnone] at hentries
  cases hentries

/-! ## Runners -/

/-- The same headers on both endpoints. -/
theorem httpCall_headers (deps : GatewayRunnerDeps) (request : InferenceRequest) :
    ∃ url body, httpCall deps request = .http url (upstreamHeaders request deps) body := by
  unfold httpCall
  split
  · exact ⟨_, _, rfl⟩
  · exact ⟨_, _, rfl⟩

/-- What the gateway sees of a chat call: the binding with its options, or the HTTP call. -/
theorem runnerFor_calls {catalog : Catalog} {deps : GatewayRunnerDeps} {world : GatewayWorld}
    {request : InferenceRequest} {call : UpstreamCall Json}
    (hcall : call ∈ (runnerFor catalog deps world request).calls)
    (htransits : call.transitsGateway = true) :
    (∃ model params, request.bindingModel = some model ∧
      call = .binding model params (some (bindingGatewayOptions deps.gatewayId))) ∨
    (request.bindingModel = none ∧ call = httpCall deps request) := by
  unfold runnerFor at hcall
  cases hmodel : request.bindingModel with
  | some model =>
    rw [hmodel] at hcall
    dsimp only [runViaBinding] at hcall
    left
    -- no model, no binding, a buffered stream, a plain call
    split at hcall
    · cases hcall
    split at hcall
    · cases hcall
    split at hcall
    next => exact ⟨model, _, rfl, List.mem_singleton.mp hcall⟩
    next => exact ⟨model, _, rfl, List.mem_singleton.mp hcall⟩
  | none =>
    rw [hmodel] at hcall
    dsimp only at hcall
    right
    split at hcall
    next =>
      simp only [List.mem_cons, List.not_mem_nil, or_false] at hcall
      obtain rfl | rfl | rfl := hcall
      · exact ⟨rfl, rfl⟩
      · -- the licence is accepted outside the gateway
        rw [agreeCall_transits] at htransits
        cases htransits
      · exact ⟨rfl, rfl⟩
    next => exact ⟨rfl, List.mem_singleton.mp hcall⟩

/-- What the gateway sees of a non-chat call: REST for a Workers AI model, else the
    binding with its options. -/
theorem nonChatRunnerFor_calls {catalog : Catalog} {deps : NonChatRunnerDeps}
    {answers : NonChatAnswers} {request : NonChatRunRequest} {call : UpstreamCall NonChatBody}
    (hcall : call ∈ (nonChatRunnerFor catalog deps answers request).calls)
    (htransits : call.transitsGateway = true) :
    ∃ entry, catalog.findModel request.upstreamModel = some entry ∧
      ((isCfModel entry.upstream = true ∧
          ∃ url body, call = .http url (restHeaders deps request) body) ∨
        (isCfModel entry.upstream = false ∧ ∃ body, call = .binding entry.upstream body
          (some (bindingGatewayOptions deps.gatewayId)))) := by
  -- the dispatcher tries the bypass, then REST, then the binding
  unfold nonChatRunnerFor at hcall
  cases hfind : catalog.findModel request.upstreamModel with
  | none =>
    rw [hfind] at hcall
    cases hcall
  | some entry =>
    rw [hfind] at hcall
    dsimp only at hcall
    split at hcall
    · refine ⟨entry, rfl, ?_⟩
      dsimp only [dispatchNonChat, NonChatRunRequest.normalized] at hcall
      split at hcall
      next =>
        split at hcall
        · cases hcall
        · -- the bypass passes no gateway option
          rw [List.mem_singleton.mp hcall] at htransits
          cases htransits
      split at hcall
      next hcf =>
        left
        unfold runViaRest at hcall
        split at hcall
        · cases hcall
        · exact ⟨hcf, _, _, List.mem_singleton.mp hcall⟩
      next hcf =>
        right
        split at hcall
        · cases hcall
        · exact ⟨Bool.not_eq_true _ ▸ hcf, _, List.mem_singleton.mp hcall⟩
    · cases hcall

/-! ## Requests -/

/-- The request an attempt of the workflow calls the provider with, when it gets there. -/
def LongRunWorld.sentRequest (world : LongRunWorld) (p : PlaneLongRunParams) (catalog : Catalog) :
    Option NonChatRunRequest :=
  if !world.hasGateway || JsString.trim world.token = "" then none
  else
    match world.invokeParams p, catalog.findModel p.modelId with
    | .ok params, some entry => some (world.runRequest p entry params)
    | _, _ => none

/-- The calls an effect of a door makes. -/
def NonChatEffect.calls (catalog : Catalog) (deps : NonChatRunnerDeps) (answers : NonChatAnswers) :
    NonChatEffect → List (UpstreamCall Unit)
  | .call request => (nonChatRunnerFor catalog deps answers request).calls.map .bare
  | .bindingCall model _ => [.binding model () none]
  | .record _ | .createJob _ | .put _ _ _ | .startLongRun _ | .failJob _ _ => []

/-- A request that may call the gateway, and what it finds outside: one past the gates of a
    door, or an attempt of the workflow. -/
inductive GatewayRequest where
  | chat (gate : ChatGate) (req : ValidChatRequest) (world : GatewayWorld)
  | nonChat (door : NonChatDoor) (gate : NonChatGateOk) (world : NonChatWorld) (http : NonChatHttp)
      (answers : NonChatAnswers)
  | workflow (p : PlaneLongRunParams) (world : LongRunWorld) (answers : NonChatAnswers)

namespace GatewayRequest

/-- The request a call is made for. -/
def requestId : GatewayRequest → String
  | chat gate _ _ => gate.requestId
  | nonChat _ gate _ _ _ => gate.requestId
  | workflow p _ _ => p.requestId

/-- The account a call is made for. -/
def accountId : GatewayRequest → String
  | chat gate _ _ => gate.accountId
  | nonChat _ gate _ _ _ => gate.accountId
  | workflow p _ _ => p.accountId

/-- The calls a request makes, each without its body. -/
def calls (catalog : Catalog) (deps : GatewayRunnerDeps) : GatewayRequest → List (UpstreamCall Unit)
  | chat gate req world =>
    match gate.runRequest req with
    | .error _ => []
    | .ok request => (runnerFor catalog deps world request).calls.map .bare
  | nonChat door gate world http answers =>
    (door.handle gate world http).effects.flatMap (·.calls catalog deps answers)
  | workflow p world answers =>
    match world.sentRequest p catalog with
    | none => []
    | some request => (nonChatRunnerFor catalog deps answers request).calls.map .bare

/-- A door whose model is reached over HTTP. -/
def OverHttp (catalog : Catalog) : GatewayRequest → Prop
  | chat gate _ _ => gate.model.binding = false
  | nonChat _ gate _ _ _ =>
    ∃ entry, catalog.findModel gate.model.upstream = some entry ∧ isCfModel entry.upstream = true
  | workflow _ _ _ => False

variable {catalog : Catalog} {deps : GatewayRunnerDeps} {call : UpstreamCall Unit}

/-! ## Joining -/

/-- A chat call opts out of payload logging and is joinable exactly when it goes over http. -/
theorem chat_joinable {gate : ChatGate} {req : ValidChatRequest} {world : GatewayWorld}
    (hcall : call ∈ (chat gate req world).calls catalog deps)
    (htransits : call.transitsGateway = true) :
    call.header COLLECT_LOG_PAYLOAD_HEADER = some "false" ∧
      (call.Joinable gate.requestId gate.accountId ↔ gate.model.binding = false) := by
  dsimp only [GatewayRequest.calls] at hcall
  cases hrun : gate.runRequest req with
  | error _ =>
    rw [hrun] at hcall
    cases hcall
  | ok request =>
    rw [hrun] at hcall
    unfold ChatGate.runRequest at hrun
    split at hrun
    · cases hrun
    obtain rfl := Except.ok.inj hrun
    obtain ⟨sent, hsent, rfl⟩ := List.mem_map.mp hcall
    rw [UpstreamCall.header_bare, UpstreamCall.joinable_bare]
    rw [UpstreamCall.transitsGateway_bare] at htransits
    cases hbinding : gate.model.binding with
    | true =>
      -- a binding call
      obtain ⟨model, params, -, rfl⟩ | ⟨hmodel, -⟩ := runnerFor_calls hsent htransits
      · exact ⟨rfl, iff_of_false (binding_not_joinable _ _ _ _ _) nofun⟩
      · simp [hbinding] at hmodel
    -- an HTTP call, with the metadata in its header
    | false =>
      obtain ⟨model, params, hmodel, -⟩ | ⟨-, rfl⟩ := runnerFor_calls hsent htransits
      · simp [hbinding] at hmodel
      · obtain ⟨url, body, hhttp⟩ := httpCall_headers deps _
        rw [hhttp]
        exact ⟨rfl, iff_of_true (UpstreamCall.joinable_of_header rfl rfl) rfl⟩

/-- So is a call of a non-chat door. -/
theorem nonChat_joinable {door : NonChatDoor} {gate : NonChatGateOk} {world : NonChatWorld}
    {http : NonChatHttp} {answers : NonChatAnswers}
    (hcall : call ∈ (nonChat door gate world http answers).calls catalog deps)
    (htransits : call.transitsGateway = true) :
    call.header COLLECT_LOG_PAYLOAD_HEADER = some "false" ∧
      (call.Joinable gate.requestId gate.accountId ↔
        (nonChat door gate world http answers).OverHttp catalog) := by
  obtain ⟨effect, heffect, hcall⟩ := List.mem_flatMap.mp hcall
  cases effect with
  | call request =>
    obtain ⟨params, -, rfl⟩ := NonChatDoor.called heffect
    obtain ⟨sent, hsent, rfl⟩ := List.mem_map.mp hcall
    rw [UpstreamCall.header_bare, UpstreamCall.joinable_bare]
    rw [UpstreamCall.transitsGateway_bare] at htransits
    obtain ⟨entry, hfind, hkind⟩ := nonChatRunnerFor_calls hsent htransits
    obtain ⟨hcf, url, body, rfl⟩ | ⟨hcf, body, rfl⟩ := hkind
    · exact ⟨rfl, iff_of_true (UpstreamCall.joinable_of_header rfl rfl) ⟨entry, hfind, hcf⟩⟩
    · refine ⟨rfl, iff_of_false (binding_not_joinable _ _ _ _ _) ?_⟩
      rintro ⟨other, hother, hcf'⟩
      obtain rfl := Option.some.inj (hfind.symm.trans hother)
      rw [hcf] at hcf'
      cases hcf'
  | bindingCall model params =>
    -- Deepgram is called past the gateway
    rw [List.mem_singleton.mp hcall] at htransits
    cases htransits
  | record _ | createJob _ | put _ _ _ | startLongRun _ | failJob _ _ => cases hcall

/-- A workflow's call opts out too, and is never joinable. -/
theorem workflow_not_joinable {p : PlaneLongRunParams} {world : LongRunWorld}
    {answers : NonChatAnswers} (hcall : call ∈ (workflow p world answers).calls catalog deps)
    (htransits : call.transitsGateway = true) :
    call.header COLLECT_LOG_PAYLOAD_HEADER = some "false" ∧
      ¬call.Joinable p.requestId p.accountId := by
  dsimp only [GatewayRequest.calls] at hcall
  cases hrequest : world.sentRequest p catalog with
  | none =>
    rw [hrequest] at hcall
    cases hcall
  | some request =>
    rw [hrequest] at hcall
    unfold LongRunWorld.sentRequest at hrequest
    split at hrequest
    · cases hrequest
    split at hrequest
    next params entry _ _ =>
      obtain rfl := Option.some.inj hrequest
      obtain ⟨sent, hsent, rfl⟩ := List.mem_map.mp hcall
      rw [UpstreamCall.header_bare, UpstreamCall.joinable_bare]
      rw [UpstreamCall.transitsGateway_bare] at htransits
      obtain ⟨entry', -, hkind⟩ := nonChatRunnerFor_calls hsent htransits
      obtain ⟨-, url, body, rfl⟩ | ⟨-, body, rfl⟩ := hkind
      · -- six entries, and the gateway keeps five
        have hnames : ["account_id", "client_id", "plan_id", "request_id", "job_id",
            "cf_token_id"].Nodup := by decide
        exact ⟨rfl, UpstreamCall.not_joinable_of_header rfl hnames (Nat.lt_add_one 5)⟩
      · exact ⟨rfl, binding_not_joinable _ _ _ _ _⟩
    · cases hrequest

end GatewayRequest

/-- A call that the gateway sees opts out of payloads, and can be joined to the ledger exactly
    when it is one that a door makes over HTTP. -/
theorem gateway_joinable (catalog : Catalog) (deps : GatewayRunnerDeps) (request : GatewayRequest)
    (call : UpstreamCall Unit) (hcall : call ∈ request.calls catalog deps)
    (htransits : call.transitsGateway = true) :
    call.header COLLECT_LOG_PAYLOAD_HEADER = some "false" ∧
      (call.Joinable request.requestId request.accountId ↔ request.OverHttp catalog) := by
  cases request with
  | chat gate req world => exact GatewayRequest.chat_joinable hcall htransits
  | nonChat door gate world http answers => exact GatewayRequest.nonChat_joinable hcall htransits
  | workflow p world answers =>
    obtain ⟨hoptOut, hnot⟩ := GatewayRequest.workflow_not_joinable hcall htransits
    exact ⟨hoptOut, iff_of_false hnot id⟩

/-- A speech request, answered in place. -/
def speechRequest : GatewayRequest :=
  .nonChat .audioSpeech speechGate (answering .null) ⟨.obj [("input", .str "Good morning")], "", ""⟩
    fun _ => .timeout 60000

/-- The REST call of a speech model. -/
def speechCall (request : NonChatRunRequest) : UpstreamCall Unit :=
  .http "https://api.cloudflare.com/client/v4/accounts/account/ai/run/%40cf/deepgram/aura-2-en"
    (restHeaders bindingDeps request) ()

/-- The sample speech call is joinable. -/
theorem gateway_joinable_speech :
    (speechCall (speechGate.runRequest .null)).Joinable "req-1" "acct" := by
  have hsent : speechCall (speechGate.runRequest .null) ∈
      speechRequest.calls [speechGate.model] bindingDeps := List.mem_singleton.mpr rfl
  exact (gateway_joinable [speechGate.model] bindingDeps speechRequest _ hsent rfl).2.mpr
    ⟨speechGate.model, rfl, rfl⟩

/-- The same request as a job. -/
def speechJob : PlaneLongRunParams :=
  speechGate.longRunParams (answering .null) ⟨.obj [("input", .str "Good morning")], "", ""⟩
    ⟨.speech, "Good morning", none, none, none, 1, none⟩

/-- What its workflow finds. -/
def quietLongRun : LongRunWorld where
  hasGateway := true
  token := "secret"
  hasMedia := false
  media _ := none
  uploadUrl := ""
  downloadUrl := ""
  run _ := .timeout 60000
  ready := false
  atobMessage := ""
  put _ := .ok ()
  mediaUrl := ""
  rehost _ := none

/-- A song, which is reached through the binding. -/
def songGate : NonChatGateOk :=
  { speechGate with model := ⟨"minimax/music-2.6", "minimax/music-2.6", false, .chat, .music,
      .unifiedBilling, .premium, none, some ⟨50000, .request⟩⟩ }

/-- The call of a song, by the binding. -/
def songCall : UpstreamCall Unit :=
  .binding "minimax/music-2.6" () (some (bindingGatewayOptions "gateway"))

/-- A job writes six entries, and a song none. -/
theorem job_and_song_not_joinable :
    (∃ call ∈ (GatewayRequest.workflow speechJob quietLongRun fun _ => .timeout 60000).calls
        [speechGate.model] bindingDeps,
      call.transitsGateway = true ∧ ¬call.Joinable "req-1" "acct") ∧
    ∃ call ∈ (GatewayRequest.nonChat .musicGenerations songGate (answering .null)
        ⟨.obj [("prompt", .str "Rain on a tin roof")], "", ""⟩ fun _ => .timeout 60000).calls
        [songGate.model] bindingDeps,
      call.transitsGateway = true ∧ ¬call.Joinable "req-1" "acct" := by
  -- the one call of the job, and the one of the song
  have hjob : speechCall (quietLongRun.runRequest speechJob speechGate.model .null) ∈
      (GatewayRequest.workflow speechJob quietLongRun fun _ => .timeout 60000).calls
        [speechGate.model] bindingDeps := List.mem_singleton.mpr rfl
  have hsong : songCall ∈ (GatewayRequest.nonChat .musicGenerations songGate (answering .null)
      ⟨.obj [("prompt", .str "Rain on a tin roof")], "", ""⟩ fun _ => .timeout 60000).calls
      [songGate.model] bindingDeps := List.mem_singleton.mpr rfl
  constructor
  · exact ⟨_, hjob, rfl, (GatewayRequest.workflow_not_joinable hjob rfl).2⟩
  · exact ⟨_, hsong, rfl, binding_not_joinable _ _ _ _ _⟩

end ControlPlane
