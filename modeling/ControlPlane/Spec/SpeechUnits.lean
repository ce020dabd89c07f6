import ControlPlane.Spec.AsyncParams
import Mathlib.Algebra.Order.Field.Rat
import Mathlib.Tactic.Linarith

/-!
# What speech is billed for

Speech is billed by the thousand characters of what the client sent. What reaches the
model is clipped.

## Key results

- `spokenText_buildTtsParams`: the model is sent the clipped input
- `thousands_clipPrompt_iff`: clipping changes the bill as soon as it changes the text
- `speech_units`: both paths bill what they send exactly when nothing is clipped
-/

namespace ControlPlane

/-- The text that params hand to a speech model. -/
def spokenText (params : Json) : Option String := params.strField "text" <|> params.strField "prompt"

/-- Thousands of characters, a begun one counted, and at least one. -/
def thousands (text : String) : Int := max 1 (((JsString.length text : Nat) : Rat) / 1000).ceil

/-- The units are those of the text that is sent. -/
def BilledAsSent (units : Int) (params : Json) : Prop :=
  ∃ text, spokenText params = some text ∧ units = thousands text

/-- The input of a speech request is sent as it is. -/
def SpeechFits (http : NonChatHttp) : Prop :=
  ∀ input, inputField http = some input → JsString.length input ≤ MAX_PROMPT_CHARS

/-! ## Clipping -/

theorem spokenText_buildTtsParams (modelId text : String) (voice : Option String) :
    spokenText (buildTtsParams modelId text voice) = some (clipPrompt text) := by
  unfold buildTtsParams
  dsimp only
  split <;> rfl

theorem length_clipPrompt (text : String) :
    JsString.length (clipPrompt text) = min MAX_PROMPT_CHARS (JsString.length text) := by
  unfold clipPrompt
  split
  · omega
  · rw [JsString.length_slice]

/-- A text that is clipped costs more than what is left of it. -/
theorem thousands_clipPrompt_iff (text : String) :
    thousands text = thousands (clipPrompt text) ↔ JsString.length text ≤ MAX_PROMPT_CHARS := by
  constructor
  · intro heq
    by_contra hlong
    -- the clipped text is eight thousand units long
    have hclip : thousands (clipPrompt text) = 8 := by
      have hlength : JsString.length (clipPrompt text) = 8000 := by
        rw [length_clipPrompt]
        exact min_eq_left (by omega)
      rw [thousands, hlength]
      decide +kernel
    have hmore : 8 < thousands text := by
      apply lt_max_of_lt_right
      have hlength : 8000 < JsString.length text := Nat.lt_of_not_le hlong
      rw [Rat.lt_ceil_iff, lt_div_iff₀ (by norm_num)]
      norm_num
      exact hlength
    omega
  · intro hfits
    rw [clipPrompt, if_pos hfits]

/-- Units counted on the input are those of the text that is sent, or it was clipped. -/
theorem billedAsSent_iff (modelId input : String) (voice : Option String) :
    BilledAsSent (thousands input) (buildTtsParams modelId input voice) ↔
      JsString.length input ≤ MAX_PROMPT_CHARS := by
  rw [← thousands_clipPrompt_iff]
  constructor
  · rintro ⟨text, htext, hunits⟩
    rw [spokenText_buildTtsParams] at htext
    rwa [Option.some.inj htext]
  · exact fun hunits => ⟨_, spokenText_buildTtsParams _ _ _, hunits⟩

/-! ## Paths -/

variable {gate : NonChatGateOk} {world : NonChatWorld} {http : NonChatHttp}

theorem speechUnits_eq (hunit : gate.unitPrice.unit = .kCharacters) (input : String) :
    gate.speechUnits input = thousands input := if_pos hunit

/-- The answer of a run that ended well states its units. -/
theorem NonChatGateOk.Ended.units_ok {units charged microUsd : Int} {served : Served} {body : Json}
    (h : NonChatGateOk.Ended gate world units served) (hunits : 1 ≤ units)
    (hanswer : served.answer = .ok body microUsd charged) : charged = units := by
  cases h with
  | failed => cases hanswer
  | answered answer upstreamStatus gatewayLogId =>
    obtain ⟨-, -, hcharged⟩ := NonChatAnswer.ok.inj hanswer
    rw [← hcharged, NonChatGateOk.priceUnits_of_pos hunits]

/-- A speech request that is answered in place was sent and is charged its units. -/
theorem speech_answered {body : Json} {microUsd units : Int}
    (hanswer : (NonChatDoor.audioSpeech.handle gate world http).answer = .ok body microUsd units) :
    ∃ input, inputField http = some input ∧ units = gate.speechUnits input ∧
      ∀ request, .call request ∈ (NonChatDoor.audioSpeech.handle gate world http).effects →
        request.params = buildTtsParams gate.model.id input (voiceField http) := by
  have hcalled := @NonChatDoor.called .audioSpeech gate world http
  have hhandled := NonChatDoor.audioSpeech.handled gate world http
  generalize NonChatDoor.audioSpeech.handle gate world http = served at hanswer hcalled hhandled ⊢
  have hsent (input : String) (hinput : inputField http = some input) :
      ∀ request, .call request ∈ served.effects →
        request.params = buildTtsParams gate.model.id input (voiceField http) := by
    intro request hmem
    obtain ⟨sent, hsent, rfl⟩ := hcalled hmem
    rw [NonChatDoor.syncParams, hinput] at hsent
    exact (Option.some.inj hsent).symm
  cases hhandled with
  | refused error => cases hanswer
  | threw => cases hanswer
  | deepgram hdoor => cases hdoor
  | job handed _ =>
    -- a job is accepted or refused, never answered
    revert hanswer
    unfold NonChatGateOk.startAsyncLongRun
    split
    next => exact fun hanswer => by cases hanswer
    next create _ =>
      intro hanswer
      have hstarted : (gate.jobStarted (create (gate.longRunParams world http handed))).answer =
          .ok body microUsd units := hanswer
      cases hcreate : create (gate.longRunParams world http handed) with
      | ok _ => rw [hcreate] at hstarted; cases hstarted
      | error message => rw [hcreate] at hstarted; cases hstarted
  | provider sent hparams next hnext =>
    obtain ⟨input, hinput, -⟩ := Option.map_eq_some_iff.mp hparams
    refine ⟨input, hinput, ?_, hsent input hinput⟩
    have hdoor : NonChatDoor.audioSpeech.units gate http = gate.speechUnits input := by
      have hinput' : (requireString http.raw "input" <|> requireString http.raw "text") =
          some input := hinput
      rw [NonChatDoor.units, hinput', Option.getD_some]
    rw [hdoor] at hnext
    revert hanswer
    unfold NonChatGateOk.runProvider NonChatGateOk.runUpstream Served.after
    dsimp only
    cases world.run (gate.runRequest sent) with
    | timeout waitedMs => exact fun hanswer => by cases hanswer
    | unavailable detail => exact fun hanswer => by cases hanswer
    | upstreamError status detail => exact fun hanswer => by cases hanswer
    | ok result gatewayLogId =>
      dsimp only
      split
      · exact fun hanswer => by cases hanswer
      · exact (hnext result gatewayLogId).units_ok (gate.one_le_speechUnits input)

/-- Speech by the thousand characters is billed for the text that is sent, in place and as a
    job, exactly when the input is short enough to be sent as it is. -/
theorem speech_units (gate : NonChatGateOk) (world : NonChatWorld) (http : NonChatHttp)
    (hunit : gate.unitPrice.unit = .kCharacters) :
    (∀ request body microUsd units,
      .call request ∈ (NonChatDoor.audioSpeech.handle gate world http).effects →
      (NonChatDoor.audioSpeech.handle gate world http).answer = .ok body microUsd units →
      (BilledAsSent units request.params ↔ SpeechFits http)) ∧
    ∀ (p : PlaneLongRunParams) (run : LongRunWorld) (rebuilt : Json),
      .startLongRun p ∈ (NonChatDoor.audioSpeech.handle gate world http).effects →
      run.invokeParams p = .ok rebuilt → (BilledAsSent p.units rebuilt ↔ SpeechFits http) := by
  have hfits (input : String) (hinput : inputField http = some input) :
      JsString.length input ≤ MAX_PROMPT_CHARS ↔ SpeechFits http := by
    constructor
    · intro h other hother
      rwa [Option.some.inj (hother.symm.trans hinput)]
    · exact fun h => h input hinput
  constructor
  · intro request body microUsd units hmem hanswer
    obtain ⟨input, hinput, hunits, hparams⟩ := speech_answered hanswer
    rw [hparams request hmem, hunits, speechUnits_eq hunit, billedAsSent_iff, hfits input hinput]
  · intro p run rebuilt hstart hrebuilt
    obtain ⟨handed, hhanded, rfl, -⟩ := NonChatDoor.started hstart
    obtain ⟨input, hinput, rfl⟩ := Option.map_eq_some_iff.mp hhanded
    -- the workflow builds the same params from the payload
    have hparams : run.invokeParams (gate.longRunParams world http
        ⟨.speech, input, none, none, voiceField http, gate.speechUnits input, none⟩) = _ :=
      plain_params rfl PlaneLongRunKind.noConfusion
    obtain rfl := Except.ok.inj (hparams.symm.trans hrebuilt)
    rw [units_longRunParams (gate.one_le_speechUnits input), speechUnits_eq hunit]
    exact (billedAsSent_iff _ _ _).trans (hfits input hinput)

/-- A greeting, answered with audio. -/
def spoken : NonChatWorld := answering (.obj [("audio", .str "SUQz")])

theorem speech_units_greeting :
    BilledAsSent 1 (buildTtsParams "@cf/deepgram/aura-2-en" "Good morning" none) := by
  have hfits : SpeechFits ⟨.obj [("input", .str "Good morning")], "", ""⟩ := by
    intro input hinput
    obtain rfl : "Good morning" = input := Option.some.inj hinput
    decide +kernel
  have hunits : (priceUnits (speechGate.speechUnits "Good morning") speechGate.unitPrice).2 = 1 := by
    decide +kernel
  rw [← hunits]
  exact ((speech_units speechGate spoken ⟨.obj [("input", .str "Good morning")], "", ""⟩ rfl).1
    (speechGate.runRequest (buildTtsParams "@cf/deepgram/aura-2-en" "Good morning" none)) _ _ _
    List.mem_cons_self rfl).mpr hfits

/-- A long drawn-out cry. -/
def longInput (n : Nat) : String := String.ofList (List.replicate (n + 1) 'a')

theorem length_longInput (n : Nat) : JsString.length (longInput n) = n + 1 := by
  rw [longInput, JsString.length_ofList, List.length_replicate]
  intro c hc
  rw [(List.mem_replicate.mp hc).2]
  decide

theorem requireString_longInput (n : Nat) :
    requireString (.obj [("input", .str (longInput n))]) "input" = some (longInput n) := by
  have hstart : (longInput n).toList = 'a' :: List.replicate n 'a' := String.toList_ofList
  have hend : (longInput n).toList = List.replicate n 'a' ++ ['a'] := by
    rw [longInput, String.toList_ofList, ← List.replicate_succ']
  have hne : longInput n ≠ "" := by
    intro hempty
    have hlength := length_longInput n
    have hzero : JsString.length "" = 0 := rfl
    rw [hempty, hzero] at hlength
    omega
  have hfield : Json.strField (.obj [("input", .str (longInput n))]) "input" =
      some (longInput n) := rfl
  rw [requireString, hfield, Option.map_some, Option.bind_some,
    JsString.trim_of_ends hstart hend rfl rfl, nonempty, if_neg hne]

/-- What is clipped is charged all the same. -/
theorem longInput_overbilled {n : Nat} (h : MAX_PROMPT_CHARS ≤ n) : ∃ request body microUsd units,
    .call request ∈ (NonChatDoor.audioSpeech.handle speechGate spoken
      ⟨.obj [("input", .str (longInput n))], "", ""⟩).effects ∧
    (NonChatDoor.audioSpeech.handle speechGate spoken
      ⟨.obj [("input", .str (longInput n))], "", ""⟩).answer = .ok body microUsd units ∧
    ¬BilledAsSent units request.params := by
  -- the request of the example, as far as it does not depend on the length
  have hserved : NonChatDoor.audioSpeech.handle speechGate spoken
      ⟨.obj [("input", .str (longInput n))], "", ""⟩ = speechGate.runProvider spoken
        (buildTtsParams "@cf/deepgram/aura-2-en" (longInput n) none) fun body logId =>
          ((extractAudioBase64 body).bind nonempty).elim
            (speechGate.failed "no_audio_payload" (some 200)
              ⟨.upstreamError, "TTS returned no audio payload."⟩)
            fun audio => speechGate.meterAndRespond spoken (speechGate.speechUnits (longInput n))
              (.obj [("model", .str speechGate.model.id), ("audio_base64", .str audio),
                ("format", .str "mp3")]) 200 logId := by
    unfold NonChatDoor.handle NonChatGateOk.handleAudioSpeech
    rw [requireString_longInput]
    show speechGate.runProvider spoken _ _ = speechGate.runProvider spoken _ _
    congr 1
    funext body logId
    cases (extractAudioBase64 body).bind nonempty <;> rfl
  rw [hserved]
  refine ⟨speechGate.runRequest (buildTtsParams "@cf/deepgram/aura-2-en" (longInput n) none),
    _, _, _, List.mem_cons_self, rfl, ?_⟩
  rw [NonChatGateOk.priceUnits_of_pos (speechGate.one_le_speechUnits _), speechUnits_eq rfl]
  intro hbilled
  have hshort := (billedAsSent_iff "@cf/deepgram/aura-2-en" (longInput n) none).mp hbilled
  rw [length_longInput] at hshort
  omega

/-- Eight thousand characters are sent, nine thousand are charged. -/
theorem speech_overbilled : ∃ request body microUsd units,
    .call request ∈ (NonChatDoor.audioSpeech.handle speechGate spoken
      ⟨.obj [("input", .str (longInput 8000))], "", ""⟩).effects ∧
    (NonChatDoor.audioSpeech.handle speechGate spoken
      ⟨.obj [("input", .str (longInput 8000))], "", ""⟩).answer = .ok body microUsd units ∧
    ¬BilledAsSent units request.params :=
  longInput_overbilled le_rfl

end ControlPlane
