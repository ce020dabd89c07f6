import ControlPlane.Spec.NonChatCalls

/-!
# What the non-chat doors record of an upstream call

Every exit after the model was called attempts one ledger write: a charge where the
client is answered 200, a gap where it is not. The exits are few combinators, each
with its lemma; a handler goes one of the ways `NonChatDoor.handled` lists.

## Key results

- `meterAndRespond_recorded` / `failed_recorded`: the two kinds of end
- `runProvider_recorded`: the calls keep what their continuations do
- `Ended.recorded`: the ends of a run
- `nonchat_attempt`: exactly one attempt for each call, metered exactly on 200
-/

namespace ControlPlane

/-- The ledger writes that are attempted. -/
def Served.attempts (served : Served) : List UsageEvent :=
  served.effects.filterMap fun effect =>
    match effect with
    | .record event => some event
    | _ => none

/-- A call of a model, through the runner or through the binding. -/
def NonChatEffect.isUpstreamCall : NonChatEffect → Bool
  | .call _ | .bindingCall _ _ => true
  | _ => false

/-- The answer came with a call upstream. -/
def Served.CalledUpstream (served : Served) : Prop :=
  ∃ effect ∈ served.effects, effect.isUpstreamCall = true

/-- No call came back as unavailable. -/
def Served.AllAvailable (served : Served) (world : NonChatWorld) : Prop :=
  ∀ request, .call request ∈ served.effects → ∀ detail, world.run request ≠ .unavailable detail

/-- The client is answered 200. -/
def NonChatAnswer.isOk : NonChatAnswer → Bool
  | .ok _ _ _ => true
  | _ => false

/-- A row that charges units at the gate's rate, over the two pools. -/
structure NonChatGateOk.Charges (gate : NonChatGateOk) (units : Int) (event : UsageEvent) :
    Prop where
  metered : event.metered = true
  microUsd : event.microUsd = units * gate.unitPrice.microUsdPerUnit
  split : event.fromAllowanceMicroUsd + event.fromCreditMicroUsd = event.microUsd

/-- A row that charges nothing and says why. -/
structure UsageEvent.Uncharged (event : UsageEvent) : Prop where
  unmetered : event.metered = false
  microUsd : event.microUsd = 0
  fromAllowance : event.fromAllowanceMicroUsd = 0
  fromCredit : event.fromCreditMicroUsd = 0
  reason : ∃ reason, event.unmeteredReason = some reason

/-- One row for the request: a charge with a 200, or a gap without. -/
def NonChatGateOk.RecordedOnce (gate : NonChatGateOk) (units : Int) (served : Served) : Prop :=
  ∃ event, served.attempts = [event] ∧ event.requestId = gate.requestId ∧
    (gate.Charges units event ∧ served.answer.isOk = true ∨
      event.Uncharged ∧ served.answer.isOk = false)

namespace NonChatGateOk

variable (gate : NonChatGateOk) (world : NonChatWorld) {units : Int}

/-! ## Ends -/

/-- Units from one on are priced as they are. -/
theorem priceUnits_of_pos {n : Int} (h : 1 ≤ n) (unitPrice : UnitPrice) :
    priceUnits n unitPrice = (n * unitPrice.microUsdPerUnit, n) := by
  unfold priceUnits
  have hmax : max 0 n = n := by omega
  simp only [hmax]
  rw [if_neg (by omega)]

/-- A speech is at least one unit. -/
theorem one_le_speechUnits (input : String) : 1 ≤ gate.speechUnits input := by
  unfold speechUnits
  split
  · exact le_max_left _ _
  · exact le_refl 1

/-- The charged row adds up to its price. -/
theorem meteredEvent_charges {microUsd : Int} (h : 0 ≤ microUsd) (upstreamStatus : Int)
    (gatewayLogId : Option String)
    (hprice : microUsd = units * gate.unitPrice.microUsdPerUnit) :
    gate.Charges units (gate.meteredEvent world microUsd upstreamStatus gatewayLogId) := by
  unfold meteredEvent
  dsimp only
  split
  · exact ⟨rfl, hprice, (allocateCharge_spec _ _ _ h).2.2.1⟩
  next hfree =>
    -- a rate of zero moves neither pool
    have hzero : microUsd = 0 := by omega
    exact ⟨rfl, hprice, hzero.symm⟩

/-- The metered row bears the request's id. -/
theorem meteredEvent_requestId (microUsd upstreamStatus : Int) (gatewayLogId : Option String) :
    (gate.meteredEvent world microUsd upstreamStatus gatewayLogId).requestId = gate.requestId := by
  unfold meteredEvent
  dsimp only
  split <;> rfl

/-- A served answer is charged. -/
theorem meterAndRespond_recorded (h : 1 ≤ units) (body : Json) (upstreamStatus : Int)
    (gatewayLogId : Option String) :
    gate.RecordedOnce units (gate.meterAndRespond world units body upstreamStatus gatewayLogId) := by
  -- at least one unit is charged for, so the price is the units times the unit price
  have hprice : (priceUnits units gate.unitPrice).1 = units * gate.unitPrice.microUsdPerUnit := by
    rw [priceUnits_of_pos h]
  have hnonneg : 0 ≤ (priceUnits units gate.unitPrice).1 := by
    rw [hprice]
    exact Int.mul_nonneg (by omega) (Int.natCast_nonneg _)
  refine ⟨_, rfl, gate.meteredEvent_requestId world _ _ _, .inl ⟨?_, rfl⟩⟩
  exact gate.meteredEvent_charges world hnonneg _ _ hprice

/-- An error after the call leaves a gap. -/
theorem failed_recorded (reason : String) (upstreamStatus : Option Int) (error : ApiError) :
    gate.RecordedOnce units (gate.failed reason upstreamStatus error) :=
  ⟨_, rfl, rfl, .inr ⟨⟨rfl, rfl, rfl, rfl, reason, rfl⟩, rfl⟩⟩

/-! ## Calls -/

variable {world} {gate}

/-- A call in front changes neither the rows nor the answer. -/
theorem RecordedOnce.after_call {served : Served} (h : gate.RecordedOnce units served)
    (request : NonChatRunRequest) : gate.RecordedOnce units (served.after [.call request]) := h

/-- A call by the binding records nothing by itself. -/
theorem RecordedOnce.after_bindingCall {served : Served} (h : gate.RecordedOnce units served)
    (model : String) (params : DeepgramSttParams) :
    gate.RecordedOnce units (served.after [.bindingCall model params]) := h

/-- A call upstream that is available is recorded once, as what follows it is. -/
theorem runUpstream_recorded {params : Json} {next : Json → Option String → Served}
    (havailable : ∀ detail, world.run (gate.runRequest params) ≠ .unavailable detail)
    (hnext : ∀ body gatewayLogId, gate.RecordedOnce units (next body gatewayLogId)) :
    gate.RecordedOnce units (gate.runUpstream world params next) := by
  unfold runUpstream
  dsimp only
  apply RecordedOnce.after_call
  cases hrun : world.run (gate.runRequest params) with
  | timeout waitedMs => exact gate.failed_recorded _ _ _
  -- a missing binding would leave no ledger row: the hypothesis rules it out
  | unavailable detail => exact absurd hrun (havailable detail)
  | upstreamError status detail =>
    exact ⟨_, rfl, rfl, .inr ⟨⟨rfl, rfl, rfl, rfl, _, rfl⟩, rfl⟩⟩
  | ok body gatewayLogId => exact hnext body gatewayLogId

/-- So is a run of the provider. -/
theorem runProvider_recorded {params : Json} {next : Json → Option String → Served}
    (havailable : ∀ detail, world.run (gate.runRequest params) ≠ .unavailable detail)
    (hnext : ∀ body gatewayLogId, gate.RecordedOnce units (next body gatewayLogId)) :
    gate.RecordedOnce units (gate.runProvider world params next) := by
  apply runUpstream_recorded havailable
  intro body gatewayLogId
  split
  · exact gate.failed_recorded _ _ _
  · exact hnext body gatewayLogId

/-- The call of a provider run is made, whatever it answers. -/
theorem available_runProvider {params : Json} {next : Json → Option String → Served}
    (h : (gate.runProvider world params next).AllAvailable world) (detail : String) :
    world.run (gate.runRequest params) ≠ .unavailable detail :=
  h (gate.runRequest params) List.mem_cons_self detail

/-- A refusal calls nothing. -/
theorem not_called_refused (error : ApiError) : ¬(Served.refused error).CalledUpstream := by
  rintro ⟨effect, hmem, -⟩
  cases hmem

/-- A job is started without calling the model. -/
theorem not_called_startAsyncLongRun (http : NonChatHttp) (args : LongRunArgs) :
    ¬(gate.startAsyncLongRun world http args).CalledUpstream := by
  rintro ⟨effect, hmem, hcall⟩
  obtain rfl | ⟨image, -, rfl⟩ | rfl | ⟨detail, rfl⟩ := mem_startAsyncLongRun hmem <;> cases hcall

/-- The binding path: what it throws is caught and recorded. -/
theorem runDeepgramBatchStt_recorded {audioBase64 mime : String}
    (hcalled : (gate.runDeepgramBatchStt world audioBase64 mime).CalledUpstream) :
    gate.RecordedOnce 1 (gate.runDeepgramBatchStt world audioBase64 mime) := by
  revert hcalled
  unfold runDeepgramBatchStt
  split
  next => exact fun hcalled => absurd hcalled (not_called_refused _)
  next run _ =>
    intro _
    dsimp only
    split
    · exact gate.failed_recorded _ _ _
    -- the binding was called; whatever it answers is one row
    next params _ =>
      apply RecordedOnce.after_bindingCall
      split
      · exact gate.failed_recorded _ _ _
      · split
        · exact gate.failed_recorded _ _ _
        · exact gate.meterAndRespond_recorded world le_rfl _ _ _

/-- Every end of a door records the request once. -/
theorem Ended.recorded {served : Served} (h : Ended gate world units served) (hunits : 1 ≤ units) :
    gate.RecordedOnce units served := by
  cases h with
  | failed reason upstreamStatus error => exact gate.failed_recorded _ _ _
  | answered body upstreamStatus gatewayLogId =>
    exact gate.meterAndRespond_recorded world hunits _ _ _

/-- Every door bills at least one unit. -/
theorem one_le_units (door : NonChatDoor) (gate : NonChatGateOk) (http : NonChatHttp) :
    1 ≤ door.units gate http := by
  cases door with
  | audioSpeech => exact gate.one_le_speechUnits _
  | _ => exact le_rfl

end NonChatGateOk

/-- Every handler that called its model, and was not told that it is unavailable, has
    attempted one write: the price of its units with a 200, a gap with anything else. -/
theorem nonchat_attempt (door : NonChatDoor) (gate : NonChatGateOk) (world : NonChatWorld)
    (http : NonChatHttp) (hcalled : (door.handle gate world http).CalledUpstream)
    (havailable : (door.handle gate world http).AllAvailable world) :
    gate.RecordedOnce (door.units gate http) (door.handle gate world http) := by
  have hhandled := door.handled gate world http
  generalize door.handle gate world http = served at hcalled havailable hhandled ⊢
  revert hcalled havailable
  cases hhandled with
  | refused error => exact fun hcalled _ => absurd hcalled (NonChatGateOk.not_called_refused _)
  | threw =>
    -- the audio is not base64: thrown before any call
    rintro ⟨effect, hmem, -⟩
    cases hmem
  | job handed _ =>
    exact fun hcalled _ => absurd hcalled (NonChatGateOk.not_called_startAsyncLongRun http _)
  | provider sent _ next hnext =>
    intro _ havailable
    apply NonChatGateOk.runProvider_recorded (NonChatGateOk.available_runProvider havailable)
    exact fun body gatewayLogId =>
      (hnext body gatewayLogId).recorded (NonChatGateOk.one_le_units door gate http)
  | deepgram hdoor audioBase64 mime =>
    intro hcalled _
    rw [hdoor]
    exact NonChatGateOk.runDeepgramBatchStt_recorded hcalled

/-- Speech at 30000 micro-USD per thousand characters, on a plan without an allowance. -/
def speechGate : NonChatGateOk where
  requestId := "req-1"
  accountId := "acct"
  clientId := "client"
  planId := "free"
  plan := ⟨"free", "Free", 0, 0, 60, 1000, []⟩
  model := ⟨"@cf/deepgram/aura-2-en", "@cf/deepgram/aura-2-en", false, .chat, .tts, .workersAi,
    .standard, none, some ⟨30000, .kCharacters⟩⟩
  unitPrice := ⟨30000, .kCharacters⟩
  auth := ⟨"token", "secret"⟩
  periodKey := "2026-07"
  created := 1790000000
  useId := "use-1"
  jobId := "job-1"

/-- A model that answers every call with the same body. -/
def answering (body : Json) : NonChatWorld where
  run _ := .ok body (some "log-1")
  ai := none
  atobMessage := ""
  periodNow := none
  hasMedia := false
  hasSecret := false
  uploadUrl := ""
  downloadUrl := ""
  ready := false
  late := false
  rehost _ := none
  longrun := none

/-- The sample speech is recorded once, as one unit. -/
theorem nonchat_attempt_speech :
    let served := NonChatDoor.audioSpeech.handle speechGate
      (answering (.obj [("audio", .str "SUQz")])) ⟨.obj [("input", .str "Good morning")], "", ""⟩
    speechGate.RecordedOnce 1 served := by
  intro served
  have hcalled : served.CalledUpstream :=
    ⟨.call (speechGate.runRequest
      (buildTtsParams "@cf/deepgram/aura-2-en" "Good morning" none)), List.mem_cons_self, rfl⟩
  have havailable : served.AllAvailable (answering (.obj [("audio", .str "SUQz")])) := by
    intro request _ detail
    exact NonChatRunResult.noConfusion
  have hunits : NonChatDoor.audioSpeech.units speechGate
      ⟨.obj [("input", .str "Good morning")], "", ""⟩ = 1 := by decide +kernel
  have hrecorded := nonchat_attempt .audioSpeech speechGate _ _ hcalled havailable
  rwa [hunits] at hrecorded

end ControlPlane
