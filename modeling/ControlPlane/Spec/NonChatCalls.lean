import ControlPlane.Model.Routes.NonChat

/-!
# The calls of the non-chat doors

What a door hands to its model, or to the workflow in its place: read off the request,
before anything was run.

## Key results

- `NonChatDoor.handled`: the ways a handler goes
- `NonChatDoor.called`: a call carries the params of the door
- `NonChatDoor.started`: a job is given the arguments of the door
-/

namespace ControlPlane

open JsString (startsWith)

/-- The fields a door reads of its request. -/
def imageField (http : NonChatHttp) : Option String :=
  requireString http.raw "image" <|> requireString http.raw "image_url"

/-- The text to speak, under either of its names. -/
def inputField (http : NonChatHttp) : Option String :=
  requireString http.raw "input" <|> requireString http.raw "text"

/-- The voice, under either of its names. -/
def voiceField (http : NonChatHttp) : Option String :=
  requireString http.raw "voice" <|> requireString http.raw "speaker"

/-- The seconds of a video, by its model. -/
def durationField (gate : NonChatGateOk) (http : NonChatHttp) : Int :=
  (resolveVideoDuration gate.model.id
    (Json.orElse (http.raw.field "duration") (http.raw.field "seconds"))).1

/-- A video request that is not refused: its prompt. -/
def videoPrompt (gate : NonChatGateOk) (http : NonChatHttp) : Option String :=
  let prompt := (requireString http.raw "prompt").getD ""
  if prompt = "" ∧ imageField http = none then none
  else if startsWith gate.model.id "minimax/hailuo" ∧ imageField http = none then none
  else some prompt

/-- The flags of a music request. -/
def musicOpts (http : NonChatHttp) : BuildMusicParamsOpts :=
  ⟨NonChatGateOk.boolField http.raw "is_instrumental",
    NonChatGateOk.boolField http.raw "lyrics_optimizer"⟩

/-- What a door calls its model with when it answers in place, given the address minted
    for an upload. -/
def NonChatDoor.syncParams (door : NonChatDoor) (gate : NonChatGateOk) (uploadUrl : String)
    (http : NonChatHttp) : Option Json :=
  match door with
  | .imageGenerations => (requireString http.raw "prompt").map fun prompt =>
      buildImageParams gate.model.id prompt (imageField http)
  | .audioSpeech => (inputField http).map fun input =>
      buildTtsParams gate.model.id input (voiceField http)
  | .audioTranscriptions =>
    (requireString http.raw "audio" <|> requireString http.raw "file").bind fun sent =>
      (buildSttParams gate.model.id
        ((NonChatGateOk.audioDataUrl.exec sent).getD ("audio/mpeg", sent)).2).toOption
  | .videoGenerations => (videoPrompt gate http).map fun prompt =>
      buildVideoParams gate.model.id prompt (imageField http)
        ⟨if gate.needsUpload then some uploadUrl else none, some (durationField gate http)⟩
  | .musicGenerations => (requireString http.raw "prompt").map fun prompt =>
      buildMusicParams prompt (requireString http.raw "lyrics") (musicOpts http)

/-- What a door hands to the workflow. -/
def NonChatDoor.longRunArgs (door : NonChatDoor) (gate : NonChatGateOk) (http : NonChatHttp) :
    Option NonChatGateOk.LongRunArgs :=
  match door with
  | .imageGenerations => (requireString http.raw "prompt").map fun prompt =>
      ⟨.image, prompt, none, imageField http, none, 1, none⟩
  | .audioSpeech => (inputField http).map fun input =>
      ⟨.speech, input, none, none, voiceField http, gate.speechUnits input, none⟩
  | .audioTranscriptions => none
  | .videoGenerations => (videoPrompt gate http).map fun prompt =>
      ⟨.video, prompt, none, imageField http, none, 1, some (durationField gate http)⟩
  | .musicGenerations => (requireString http.raw "prompt").map fun prompt =>
      ⟨.music, prompt, requireString http.raw "lyrics", none, none, 1, none⟩

/-- The units a door charges for. -/
def NonChatDoor.units (door : NonChatDoor) (gate : NonChatGateOk) (http : NonChatHttp) : Int :=
  match door with
  | .audioSpeech => gate.speechUnits
      ((requireString http.raw "input" <|> requireString http.raw "text").getD "")
  | _ => 1

/-! ## The ways of a handler -/

namespace NonChatGateOk

/-- How a run of the model ends: a gap, or an answer charged for its units. -/
inductive Ended (gate : NonChatGateOk) (world : NonChatWorld) (units : Int) : Served → Prop where
  | failed (reason : String) (upstreamStatus : Option Int) (error : ApiError) :
    Ended gate world units (gate.failed reason upstreamStatus error)
  | answered (body : Json) (upstreamStatus : Int) (gatewayLogId : Option String) :
    Ended gate world units (gate.meterAndRespond world units body upstreamStatus gatewayLogId)

/-- What a handler does: it refuses, starts a job, or runs the model. -/
inductive Handled (gate : NonChatGateOk) (world : NonChatWorld) (http : NonChatHttp)
    (door : NonChatDoor) : Served → Prop where
  | refused (error : ApiError) : Handled gate world http door (.refused error)
  | threw : Handled gate world http door ⟨[], .threw⟩
  | job (handed : LongRunArgs) (hhanded : door.longRunArgs gate http = some handed) :
    Handled gate world http door (gate.startAsyncLongRun world http handed)
  | provider (sent : Json) (hsent : door.syncParams gate world.uploadUrl http = some sent)
    (next : Json → Option String → Served)
    (hnext : ∀ body gatewayLogId, Ended gate world (door.units gate http) (next body gatewayLogId)) :
    Handled gate world http door (gate.runProvider world sent next)
  | deepgram (hdoor : door = .audioTranscriptions) (audioBase64 mime : String) :
    Handled gate world http door (gate.runDeepgramBatchStt world audioBase64 mime)

variable {gate : NonChatGateOk} {world : NonChatWorld} {http : NonChatHttp} {effect : NonChatEffect}

/-! ### What is done on them -/

theorem Ended.effects {units : Int} {served : Served} (h : Ended gate world units served)
    (hmem : effect ∈ served.effects) : ∃ event, effect = .record event := by
  cases h with
  | failed => exact ⟨_, List.mem_singleton.mp hmem⟩
  | answered => exact ⟨_, List.mem_singleton.mp hmem⟩

theorem mem_runProvider {units : Int} {sent : Json} {next : Json → Option String → Served}
    (hnext : ∀ body gatewayLogId, Ended gate world units (next body gatewayLogId))
    (hmem : effect ∈ (gate.runProvider world sent next).effects) :
    effect = .call (gate.runRequest sent) ∨ ∃ event, effect = .record event := by
  cases List.mem_append.mp hmem with
  | inl hmem => exact .inl (List.mem_singleton.mp hmem)
  | inr hmem =>
    right
    revert hmem
    cases hrun : world.run (gate.runRequest sent) with
    | timeout waitedMs => exact fun hmem => ⟨_, List.mem_singleton.mp hmem⟩
    | unavailable detail => exact fun hmem => by cases hmem
    | upstreamError status detail => exact fun hmem => ⟨_, List.mem_singleton.mp hmem⟩
    | ok body gatewayLogId =>
      dsimp only
      split
      · exact fun hmem => ⟨_, List.mem_singleton.mp hmem⟩
      · exact (hnext body gatewayLogId).effects

/-- The Deepgram call is the binding's own. -/
theorem mem_runDeepgramBatchStt {audioBase64 mime : String}
    (hmem : effect ∈ (gate.runDeepgramBatchStt world audioBase64 mime).effects) :
    (∃ model params, effect = .bindingCall model params) ∨ ∃ event, effect = .record event := by
  unfold runDeepgramBatchStt at hmem
  split at hmem
  next => cases hmem
  next run _ =>
    dsimp only at hmem
    -- the audio cannot be sent: the request is recorded as failed
    split at hmem
    · exact .inr ⟨_, List.mem_singleton.mp hmem⟩
    next sent _ =>
      -- the call itself, or the row of its answer
      cases List.mem_append.mp hmem with
      | inl hmem => exact .inl ⟨_, _, List.mem_singleton.mp hmem⟩
      | inr hmem =>
        right
        revert hmem
        split
        · exact fun hmem => ⟨_, List.mem_singleton.mp hmem⟩
        · split
          · exact fun hmem => ⟨_, List.mem_singleton.mp hmem⟩
          · exact fun hmem => ⟨_, List.mem_singleton.mp hmem⟩

/-- The job, the staged image, the workflow, and the mark of a job that was not started. -/
theorem mem_startAsyncLongRun {handed : LongRunArgs}
    (hmem : effect ∈ (gate.startAsyncLongRun world http handed).effects) :
    effect = .createJob gate.jobId ∨
    (∃ image, stagedImage world handed = some image ∧
      effect = .put gate.stagedKey image.1 image.2) ∨
    effect = .startLongRun (gate.longRunParams world http handed) ∨
    ∃ detail, effect = .failJob gate.jobId detail := by
  unfold startAsyncLongRun at hmem
  split at hmem
  next => cases hmem
  next create _ =>
    dsimp only at hmem
    -- the effects in their order: job, image, start, mark of a failed start
    cases List.mem_append.mp hmem with
    | inl hmem =>
      cases List.mem_append.mp hmem with
      | inl hmem =>
        cases hmem with
        | head => exact .inl rfl
        | tail _ hmem =>
          obtain ⟨image, himage, rfl⟩ := List.mem_map.mp hmem
          exact .inr (.inl ⟨image, Option.mem_toList.mp himage, rfl⟩)
      | inr hmem => exact .inr (.inr (.inl (List.mem_singleton.mp hmem)))
    | inr hmem =>
      cases hcreate : create (gate.longRunParams world http handed) with
      | ok _ =>
        rw [hcreate] at hmem
        cases hmem
      | error message =>
        rw [hcreate, jobStarted, List.mem_singleton] at hmem
        exact .inr (.inr (.inr ⟨_, hmem⟩))

/-- A workflow is asked for after its image was staged. -/
theorem put_mem_startAsyncLongRun {handed : LongRunArgs} {p : PlaneLongRunParams}
    (hmem : .startLongRun p ∈ (gate.startAsyncLongRun world http handed).effects)
    {image : String × List UInt8} (himage : stagedImage world handed = some image) :
    .put gate.stagedKey image.1 image.2 ∈ (gate.startAsyncLongRun world http handed).effects := by
  unfold startAsyncLongRun at hmem ⊢
  split
  next hnone =>
    rw [hnone] at hmem
    cases hmem
  next create _ =>
    rw [himage]
    apply List.mem_append_left
    apply List.mem_append_left
    exact List.mem_cons_of_mem _ List.mem_cons_self

/-! ### The handlers -/

theorem handleImageGenerations_handled :
    gate.Handled world http .imageGenerations (gate.handleImageGenerations world http) := by
  unfold handleImageGenerations
  cases hprompt : requireString http.raw "prompt" with
  | none => exact .refused _
  | some prompt =>
    dsimp only
    split
    -- asynchronously, by a job
    next =>
      apply Handled.job
      rw [NonChatDoor.longRunArgs, hprompt]
      rfl
    -- at once, by the provider
    next =>
      apply Handled.provider
      · rw [NonChatDoor.syncParams, hprompt]
        rfl
      · intro body gatewayLogId
        split
        · exact .failed _ _ _
        · exact .answered _ _ _

theorem handleAudioSpeech_handled :
    gate.Handled world http .audioSpeech (gate.handleAudioSpeech world http) := by
  unfold handleAudioSpeech
  cases hinput : requireString http.raw "input" <|> requireString http.raw "text" with
  | none => exact .refused _
  | some input =>
    dsimp only
    split
    -- asynchronously, by a job
    next =>
      apply Handled.job
      rw [NonChatDoor.longRunArgs, inputField, hinput]
      rfl
    next =>
      apply Handled.provider
      · rw [NonChatDoor.syncParams, inputField, hinput]
        rfl
      · intro body gatewayLogId
        rw [NonChatDoor.units, hinput, Option.getD_some]
        split
        · exact .failed _ _ _
        · exact .answered _ _ _

theorem handleAudioTranscriptions_handled :
    gate.Handled world http .audioTranscriptions (gate.handleAudioTranscriptions world http) := by
  unfold handleAudioTranscriptions
  cases haudio : requireString http.raw "audio" <|> requireString http.raw "file" with
  | none => exact .refused _
  | some sent =>
    dsimp only
    split
    -- the batch model is called through its binding
    next => exact .deepgram rfl _ _
    next =>
      cases hparams : buildSttParams gate.model.id
          ((audioDataUrl.exec sent).getD ("audio/mpeg", sent)).2 with
      -- the source does not catch what the params throw
      | error _ => exact .threw
      | ok params =>
        apply Handled.provider
        · rw [NonChatDoor.syncParams, haudio, Option.bind_some, hparams]
          rfl
        · intro body gatewayLogId
          split
          · exact .failed _ _ _
          · exact .answered _ _ _

theorem handleVideoGenerations_handled :
    gate.Handled world http .videoGenerations (gate.handleVideoGenerations world http) := by
  unfold handleVideoGenerations
  dsimp only
  by_cases hempty : (requireString http.raw "prompt").getD "" = "" ∧
      (requireString http.raw "image" <|> requireString http.raw "image_url") = none
  · rw [if_pos hempty]
    exact .refused _
  by_cases hhailuo : startsWith gate.model.id "minimax/hailuo" = true ∧
      (requireString http.raw "image" <|> requireString http.raw "image_url") = none
  · rw [if_neg hempty, if_pos hhailuo]
    exact .refused _
  -- the two checks that the door makes before it hands the prompt on
  have hprompt : videoPrompt gate http = some ((requireString http.raw "prompt").getD "") :=
    (if_neg hempty).trans (if_neg hhailuo)
  rw [if_neg hempty, if_neg hhailuo]
  split
  next =>
    apply Handled.job
    rw [NonChatDoor.longRunArgs, hprompt]
    rfl
  next =>
    unfold produceVideo
    by_cases hrefused : (gate.needsUpload && !(world.hasMedia && world.hasSecret)) = true
    · rw [if_pos hrefused]
      exact .refused _
    rw [if_neg hrefused]
    apply Handled.provider
    · rw [NonChatDoor.syncParams, hprompt]
      rfl
    · intro body gatewayLogId
      cases gate.videoAddress world body with
      | none => exact .failed _ _ _
      | some asset => exact .answered _ _ _

theorem handleMusicGenerations_handled :
    gate.Handled world http .musicGenerations (gate.handleMusicGenerations world http) := by
  unfold handleMusicGenerations
  cases hprompt : requireString http.raw "prompt" with
  | none => exact .refused _
  | some prompt =>
    dsimp only
    split
    -- asynchronously, by a job
    next =>
      apply Handled.job
      rw [NonChatDoor.longRunArgs, hprompt]
      rfl
    next =>
      apply Handled.provider
      · rw [NonChatDoor.syncParams, hprompt]
        rfl
      · intro body gatewayLogId
        split
        · exact .failed _ _ _
        · exact .answered _ _ _

end NonChatGateOk

/-- A handler goes one of these ways. -/
theorem NonChatDoor.handled (door : NonChatDoor) (gate : NonChatGateOk) (world : NonChatWorld)
    (http : NonChatHttp) : gate.Handled world http door (door.handle gate world http) := by
  cases door with
  | imageGenerations => exact NonChatGateOk.handleImageGenerations_handled
  | audioSpeech => exact NonChatGateOk.handleAudioSpeech_handled
  | audioTranscriptions => exact NonChatGateOk.handleAudioTranscriptions_handled
  | videoGenerations => exact NonChatGateOk.handleVideoGenerations_handled
  | musicGenerations => exact NonChatGateOk.handleMusicGenerations_handled

/-- A call carries the params of the door. -/
theorem NonChatDoor.called {door : NonChatDoor} {gate : NonChatGateOk} {world : NonChatWorld}
    {http : NonChatHttp} {request : NonChatRunRequest}
    (hmem : .call request ∈ (door.handle gate world http).effects) :
    ∃ sent, door.syncParams gate world.uploadUrl http = some sent ∧
      request = gate.runRequest sent := by
  have hhandled := door.handled gate world http
  generalize door.handle gate world http = served at hmem hhandled
  revert hmem
  cases hhandled with
  | refused error => exact fun hmem => by cases hmem
  | threw => exact fun hmem => by cases hmem
  -- a job is only started here; its call is made by the workflow
  | job handed _ =>
    intro hmem
    obtain h | ⟨_, -, h⟩ | h | ⟨_, h⟩ := NonChatGateOk.mem_startAsyncLongRun hmem <;> cases h
  | provider sent hsent next hnext =>
    intro hmem
    obtain h | ⟨_, h⟩ := NonChatGateOk.mem_runProvider hnext hmem
    · exact ⟨sent, hsent, NonChatEffect.call.inj h⟩
    · cases h
  | deepgram hdoor audioBase64 mime =>
    intro hmem
    obtain ⟨_, _, h⟩ | ⟨_, h⟩ := NonChatGateOk.mem_runDeepgramBatchStt hmem <;> cases h

/-- A job is given the arguments of the door, and its image is in MEDIA before. -/
theorem NonChatDoor.started {door : NonChatDoor} {gate : NonChatGateOk} {world : NonChatWorld}
    {http : NonChatHttp} {p : PlaneLongRunParams}
    (hmem : .startLongRun p ∈ (door.handle gate world http).effects) :
    ∃ handed, door.longRunArgs gate http = some handed ∧
      p = gate.longRunParams world http handed ∧
      ∀ image, NonChatGateOk.stagedImage world handed = some image →
        .put gate.stagedKey image.1 image.2 ∈ (door.handle gate world http).effects := by
  have hhandled := door.handled gate world http
  generalize door.handle gate world http = served at hmem hhandled ⊢
  revert hmem
  cases hhandled with
  | refused error => exact fun hmem => by cases hmem
  | threw => exact fun hmem => by cases hmem
  -- only a job starts a workflow, once its image is stored
  | job handed hhanded =>
    intro hmem
    refine ⟨handed, hhanded, ?_, fun image => NonChatGateOk.put_mem_startAsyncLongRun hmem⟩
    obtain h | ⟨_, -, h⟩ | h | ⟨_, h⟩ := NonChatGateOk.mem_startAsyncLongRun hmem
    · cases h
    · cases h
    · exact NonChatEffect.startLongRun.inj h
    · cases h
  | provider sent hsent next hnext =>
    intro hmem
    obtain h | ⟨_, h⟩ := NonChatGateOk.mem_runProvider hnext hmem <;> cases h
  | deepgram hdoor audioBase64 mime =>
    intro hmem
    obtain ⟨_, _, h⟩ | ⟨_, h⟩ := NonChatGateOk.mem_runDeepgramBatchStt hmem <;> cases h

end ControlPlane
