import ControlPlane.Model.Routes.Gates
import ControlPlane.Model.Routes.LongrunWorkflow
import ControlPlane.Spec.NonChatCalls
import ControlPlane.Spec.SttHandoffSeal

/-!
# The whole plane

The requests that open and manage accounts beside the requests that spend, one statement at a
time: a chat request and a non-chat request from their bearer to their ledger row, a speech
session from its upgrade to its close, a long-run job from the request that starts it to the
attempt that meters it. What the model, the gateway and the clocks answer is part of a call.

A call may be cut anywhere. A workflow step that is retried and a session that closes twice
are more calls of the same kind.
-/

namespace ControlPlane

open Script

/-! ## The store -/

/-- The database, with what the workflow engine and the session objects keep. -/
structure Plane where
  tables : AccessDb
  /-- The payloads of the long-run instances. -/
  longruns : List PlaneLongRunParams
  sessions : List SttMeta

/-- The plane after the migrations. -/
def Plane.migrated (now : Int) : Plane := ⟨.migrated now, [], []⟩

/-- A script on the tables. -/
def onTables {α : Type} (script : Script AccessDb α) : Script Plane α :=
  script.zoom (·.tables) fun plane tables => { plane with tables := tables }

/-- The tables a session meters with. -/
def Plane.stt (plane : Plane) : SttDb :=
  ⟨plane.tables.ledger, plane.tables.clients, plane.tables.modelPrices⟩

/-- The plane with the tables a session writes. -/
def Plane.setStt (plane : Plane) (db : SttDb) : Plane :=
  { plane with tables := { plane.tables with
      ledger := db.ledger
      clients := db.clients
      modelPrices := db.modelPrices } }

/-- A script of a session. -/
def onStt {α : Type} (script : Script SttDb α) : Script Plane α :=
  script.zoom Plane.stt Plane.setStt

/-! ## The doors -/

/-- Attempt the ledger writes of a request. -/
def recordEach (createdAt : Int) : List UsageEvent → Script Db Unit
  | [] => pure ()
  | event :: events => do
    recordUsage event createdAt
    recordEach createdAt events

/-- What is outside a chat request. -/
structure ChatWorld where
  run : InferenceRequest → InferenceResult
  /-- What happens to the relayed stream. -/
  events : List StreamEvent
  /-- The database's clock when the row is inserted. -/
  createdAt : Int

namespace ChatHttp

variable (http : ChatHttp) (world : ChatWorld)

/-- Call the model and record its answer. The period is read whether the row needs it or not. -/
def spend (req : ValidChatRequest) (admission : ChatAdmission) : Script Db ChatAnswer :=
  match admission.gate.runRequest req with
  | .error err => pure (.error err none)
  | .ok request => do
    let periodNow ← getPeriod admission.call.accountId admission.call.periodKey
    let served := admission.call.serve (world.run request) world.events periodNow
    recordEach world.createdAt served.1
    pure served.2

/-- `handleChatCompletions`. -/
def handle (sha256 : List UInt8 → List UInt8) (deployment : Deployment) :
    Script AccessDb ChatAnswer :=
  match http.body with
  | .error err => pure (.error err none)
  | .ok body =>
    match parseChatRequest body with
    | .error message => pure (.error (invalidRequest message) none)
    | .ok req => do
      let admitted ← http.gates deployment req sha256
      match admitted with
      | .error err => pure (.error err none)
      | .ok admission => onMoney (spend world req admission)

end ChatHttp

/-- What a handler does, as far as it lasts: its rows, and the instances it starts. A start
    that failed may have started the instance. -/
def perform (createdAt : Int) : List NonChatEffect → Script Plane Unit
  | [] => pure ()
  | .record event :: effects => do
    onTables (onMoney (recordUsage event createdAt))
    perform createdAt effects
  | .startLongRun params :: effects => do
    Script.exec fun plane => ({ plane with longruns := plane.longruns ++ [params] }, ())
    perform createdAt effects
  | _ :: effects => perform createdAt effects

/-- A non-chat door, from its gate on. -/
def NonChatRequest.handle (request : NonChatRequest) (sha256 : List UInt8 → List UInt8)
    (deployment : Deployment) (door : NonChatDoor) (world : NonChatWorld) (createdAt : Int) :
    Script Plane NonChatAnswer :=
  match request.body with
  | .error err => pure (.error err none)
  | .ok raw => do
    let gated ← onTables (request.gate deployment sha256 door.modality raw)
    match gated with
    | .error err => pure (.error err none)
    | .ok gate => do
      let periodNow ← onTables (onMoney (getPeriod gate.accountId gate.periodKey))
      let served := door.handle gate { world with periodNow := periodNow }
        ⟨raw, request.prefer, request.origin⟩
      perform createdAt served.effects
      pure served.answer

/-- What a session object finds when it is handed over. -/
structure SttOpening where
  mintedId : String
  nowSec : Number
  /-- `Date.now()`. -/
  startedMs : Int
  gatewayLogId : Option String

/-- The meta the object stores of what it accepted. -/
def HandoffClaims.meta (claims : HandoffClaims) (opening : SttOpening) : SttMeta :=
  ⟨some claims.accountId, some claims.clientId, some claims.planId, some claims.requestId,
    some claims.modelId, some opening.startedMs, opening.gatewayLogId⟩

/-- The session object of an upgrade that was handed over: it stores what it accepts. -/
def SttOpening.start (opening : SttOpening) (digests : Media.Digests) (aigToken : Option String)
    (handoff : SignedHandoff) : Script Plane Unit :=
  match handoff.headers with
  | none => pure ()
  | some headers =>
    match headers.accept digests aigToken opening.mintedId opening.nowSec with
    | .error _ => pure ()
    | .ok claims =>
      Script.exec fun plane =>
        ({ plane with sessions := plane.sessions ++ [claims.meta opening] }, ())

/-! ## The calls -/

/-- The call is a bare ledger write, which no request is. -/
def AccessCall.recordsUsage : AccessCall → Bool
  | .recordUsage _ _ => true
  | _ => false

/-- What is asked of the plane. -/
inductive PlaneCall where
  /-- A call that opens or manages, resolves or reconciles. -/
  | access (call : AccessCall) (h : call.recordsUsage = false)
  | chat (http : ChatHttp) (world : ChatWorld)
  | nonChat (door : NonChatDoor) (request : NonChatRequest) (world : NonChatWorld)
      (createdAt : Int)
  | speech (upgrade : SttUpgrade) (opening : SttOpening)
  /-- An attempt to meter a long-run instance. -/
  | job (index : Nat) (clock : FinalizeClock) (gatewayLogId : Option String)
  /-- A session comes to an end. -/
  | close (index : Nat) (attempt : SttAttempt)

/-- The statements of a call. -/
def PlaneCall.script (digests : Media.Digests) (deployment : Deployment) :
    PlaneCall → Script Plane Unit
  | .access call _ =>
    (onTables (call.script digests (deployment.catalog.map (·.toCatalogEntry)))).bind
      fun _ => .done ()
  | .chat http world =>
    (onTables (http.handle world digests.sha256 deployment)).bind fun _ => .done ()
  | .nonChat door request world createdAt =>
    (request.handle digests.sha256 deployment door world createdAt).bind fun _ => .done ()
  | .speech upgrade opening => do
    let answer ← onTables (upgrade.handle digests (deployment.catalog.map (·.toCatalogEntry)))
    match answer with
    | .error _ => pure ()
    | .ok handoff => opening.start digests upgrade.aigToken handoff
  | .job index clock gatewayLogId => do
    let params ← Script.read fun plane => plane.longruns[index]?
    match params with
    | none => pure ()
    | some params =>
      (onTables (onMoney (meterJob params clock gatewayLogId))).bind fun _ => .done ()
  | .close index attempt => do
    let stored ← Script.read fun plane => plane.sessions[index]?
    match stored.bind (·.readMeta attempt.nowMs) with
    | none => pure ()
    | some session =>
      onStt (session.meter (deployment.catalog.map (·.toCatalogEntry)) attempt)

/-- The statements of one of the calls. -/
def IsPlaneCall (digests : Media.Digests) (deployment : Deployment) (Calls : PlaneCall → Prop)
    (script : Script Plane Unit) : Prop :=
  ∃ call, Calls call ∧ script = call.script digests deployment

/-- Any number of the calls, from the plane the migrations leave: `c` is where they are. -/
def PlaneRun (digests : Media.Digests) (deployment : Deployment) (Calls : PlaneCall → Prop)
    (now : Int) (c : Pool Plane Unit) : Prop :=
  Pool.Reach (IsPlaneCall digests deployment Calls) ⟨.migrated now, []⟩ c

/-- The calls among them that are on the tables alone. -/
inductive TableCalls (Calls : PlaneCall → Prop) : AccessCall → Prop
  | access {call : AccessCall} {h : call.recordsUsage = false} (hcall : Calls (.access call h)) :
      TableCalls Calls call
  | upgrade {upgrade : SttUpgrade} {opening : SttOpening}
      (hcall : Calls (.speech upgrade opening)) : TableCalls Calls (.sttUpgrade upgrade)

/-! ## Whose a row is -/

/-- What a row names: its request, its owners, its model. -/
structure RowIds where
  requestId : String
  accountId : String
  clientId : String
  modelId : String
deriving DecidableEq

/-- Whose the row of an event is. -/
def UsageEvent.ids (event : UsageEvent) : RowIds :=
  ⟨event.requestId, event.accountId, event.clientId, event.modelId⟩

/-- Whose the row of a job is. -/
def PlaneLongRunParams.ids (params : PlaneLongRunParams) : RowIds :=
  ⟨params.requestId, params.accountId, params.clientId, params.modelId⟩

/-- Whose the row of a session is. -/
def SessionMeta.ids (session : SessionMeta) : RowIds :=
  ⟨session.requestId, session.accountId, session.clientId, session.modelId⟩

/-- Whose the row of a chat call is. -/
def ChatCall.ids (call : ChatCall) : RowIds :=
  ⟨call.requestId, call.accountId, call.clientId, call.modelId⟩

/-- Whose the row of a non-chat request is. -/
def NonChatGateOk.ids (gate : NonChatGateOk) : RowIds :=
  ⟨gate.requestId, gate.accountId, gate.clientId, gate.model.id⟩

section ids

/-- Storing an event keeps whose it is. -/
@[simp] theorem UsageEvent.ids_row (event : UsageEvent) (createdAt : Int) :
    (event.row createdAt).toUsageEvent.ids = event.ids := rfl

/-- So does splitting its charge. -/
@[simp] theorem UsageEvent.ids_withSplit (event : UsageEvent) (included : Int)
    (period : Option PeriodRow) : (event.withSplit included period).ids = event.ids := rfl

/-- So does leaving it unsplit. -/
@[simp] theorem UsageEvent.ids_withoutSplit (event : UsageEvent) :
    event.withoutSplit.ids = event.ids := rfl

/-- A job's event is the job's. -/
theorem PlaneLongRunParams.ids_event (p : PlaneLongRunParams) (clock : FinalizeClock)
    (gatewayLogId : Option String) (period : Option PeriodRow) :
    (p.event clock gatewayLogId period).ids = p.ids := by
  unfold PlaneLongRunParams.event
  split <;> rfl

/-- Every row of a chat request is its own. -/
theorem ChatCall.ids_serve (call : ChatCall) (result : InferenceResult)
    (events : List StreamEvent) (period : Option PeriodRow) :
    ∀ event ∈ (call.serve result events period).1, event.ids = call.ids := by
  have hbuild {event : UsageEvent} (h : event.ids = call.ids) :
      (call.buildEvent event period).ids = call.ids := by
    unfold ChatCall.buildEvent
    split <;> exact h
  have hone {event built : UsageEvent} (h : event.ids = call.ids)
      (hmem : built ∈ [call.buildEvent event period]) : built.ids = call.ids := by
    rw [List.mem_singleton.mp hmem]
    exact hbuild h
  unfold ChatCall.serve
  cases result with
  | timeout waitedMs => exact fun event => hone rfl
  | upstreamError status detail => exact fun event hmem => by cases hmem
  | stream gatewayLogId =>
    intro event hmem
    obtain ⟨settlement, -, rfl⟩ := List.mem_map.mp hmem
    refine hbuild ?_
    -- measured, estimated or unpriced
    unfold ChatCall.streamEvent
    dsimp only
    repeat' split
    all_goals rfl
  | ok body gatewayLogId =>
    dsimp only
    split
    · exact fun event hmem => by cases hmem
    · split <;> exact fun event hmem => by cases hmem
    · refine fun event => hone ?_
      unfold ChatCall.answerEvent
      split <;> rfl

namespace NonChatGateOk

variable {gate : NonChatGateOk} {world : NonChatWorld} {http : NonChatHttp}

/-- The effect writes a row, or starts a job, of the gate's own. -/
def Owns (gate : NonChatGateOk) : NonChatEffect → Prop
  | .record event => event.ids = gate.ids
  | .startLongRun params => params.ids = gate.ids
  | _ => True

/-- A failed request has only effects of its own. -/
theorem owns_failed (reason : String) (upstreamStatus : Option Int) (error : ApiError) :
    ∀ effect ∈ (gate.failed reason upstreamStatus error).effects, gate.Owns effect := by
  intro effect hmem
  rw [List.mem_singleton.mp hmem]
  rfl

/-- So has a metered one. -/
theorem owns_meterAndRespond (units : Int) (body : Json) (upstreamStatus : Int)
    (gatewayLogId : Option String) :
    ∀ effect ∈ (gate.meterAndRespond world units body upstreamStatus gatewayLogId).effects,
      gate.Owns effect := by
  intro effect hmem
  rw [List.mem_singleton.mp hmem]
  show (gate.meteredEvent _ _ _ _).ids = gate.ids
  unfold meteredEvent
  dsimp only
  split <;> rfl

/-- So has every end of a door. -/
theorem Ended.owns {units : Int} {served : Served} (h : Ended gate world units served) :
    ∀ effect ∈ served.effects, gate.Owns effect := by
  cases h with
  | failed => exact owns_failed _ _ _
  | answered => exact owns_meterAndRespond _ _ _ _

/-- So has a run of the provider, whatever ends it. -/
theorem owns_runProvider {units : Int} {sent : Json} {next : Json → Option String → Served}
    (hnext : ∀ body gatewayLogId, Ended gate world units (next body gatewayLogId)) :
    ∀ effect ∈ (gate.runProvider world sent next).effects, gate.Owns effect := by
  intro effect hmem
  cases List.mem_append.mp hmem with
  | inl hcall =>
    rw [List.mem_singleton.mp hcall]
    trivial
  | inr hanswer =>
    clear hmem
    revert effect
    cases world.run (gate.runRequest sent) with
    | timeout waitedMs => exact owns_failed _ _ _
    -- an upstream that is not there leaves no row
    | unavailable detail => exact fun effect hmem => by cases hmem
    | upstreamError status detail =>
      intro effect hmem
      rw [List.mem_singleton.mp hmem]
      rfl
    | ok body gatewayLogId =>
      dsimp only
      split
      · exact owns_failed _ _ _
      · exact (hnext body gatewayLogId).owns

/-- So has a batch transcription. -/
theorem owns_runDeepgramBatchStt (audioBase64 mime : String) :
    ∀ effect ∈ (gate.runDeepgramBatchStt world audioBase64 mime).effects, gate.Owns effect := by
  unfold runDeepgramBatchStt
  split
  · exact fun effect hmem => by cases hmem
  dsimp only
  split
  · exact owns_failed _ _ _
  intro effect hmem
  -- the call itself bears no ids, what comes of it does
  cases List.mem_append.mp hmem with
  | inl hcall =>
    rw [List.mem_singleton.mp hcall]
    trivial
  | inr hanswer =>
    clear hmem
    revert effect
    split
    · exact owns_failed _ _ _
    · split
      · exact owns_failed _ _ _
      · exact owns_meterAndRespond _ _ _ _

/-- A handler writes no row and starts no job but its own. -/
theorem owns_handle (door : NonChatDoor) :
    ∀ effect ∈ (door.handle gate world http).effects, gate.Owns effect := by
  have hhandled := door.handled gate world http
  generalize door.handle gate world http = served at hhandled ⊢
  cases hhandled with
  | refused error => exact fun effect hmem => by cases hmem
  | threw => exact fun effect hmem => by cases hmem
  -- of a job's effects only the job itself bears ids
  | job handed hhanded =>
    intro effect hmem
    obtain rfl | ⟨image, -, rfl⟩ | rfl | ⟨detail, rfl⟩ := mem_startAsyncLongRun hmem
    · trivial
    · trivial
    · rfl
    · trivial
  | provider sent hsent next hnext => exact owns_runProvider hnext
  | deepgram hdoor audioBase64 mime => exact owns_runDeepgramBatchStt audioBase64 mime

end NonChatGateOk

end ids

end ControlPlane
