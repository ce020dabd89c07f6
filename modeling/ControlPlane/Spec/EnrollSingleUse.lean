import ControlPlane.ForStd.Run
import ControlPlane.Model.Routes.Clients
import Mathlib.Algebra.BigOperators.Group.List.Basic

/-!
# An enrollment token is traded once

Any number of enrollment requests run against the store, one statement at a time, while
the operator and the clock change what they find. The update that redeems a token matches
an unconsumed row only, so one request at most holds a token that is not yet traded: what
the requests still hold of a token, and the clients created from it, are never more than
one together, and none before it is consumed.

## Key results

- `EnrollPhase.script_step`: a statement of the route is a step of its phases
- `EnrollWorld.Inv.step`: one event keeps the count
- `enroll_single_use`: one client at most for each token, and only from a valid redemption
-/

namespace ControlPlane

/-! ## The system -/

/-- What happens to the store beside the enrollments: time passes, and the operator
    changes accounts, mints tokens and revokes clients. -/
inductive OperatorChange where
  | clock (now : Int)
  | account (id : String) (row : Option AccountRow)
  /-- `createEnrollment`. -/
  | token (tokenHash accountId : String) (expiresAt : Int) (note : Option String)
  | revoke (clientId : String)
  /-- Other routes claim rate buckets. -/
  | rateBuckets (buckets : RateBuckets)

/-- `createEnrollment` is an insert that fails where the hash is stored already. -/
def OperatorChange.apply (db : IdentityDb) : OperatorChange → IdentityDb
  | .clock now => { db with now := now }
  | .account id row => { db with accounts := fun a => if a = id then row else db.accounts a }
  | .token tokenHash accountId expiresAt note =>
    if (db.enrollments tokenHash).isSome then db
    else
      { db with enrollments := fun h =>
          if h = tokenHash then some ⟨tokenHash, accountId, expiresAt, none, none, note⟩
          else db.enrollments h }
  | .revoke clientId =>
    { db with clients := db.clients.map fun row =>
        if row.id = clientId ∧ row.revokedAt = none then
          { row with revokedAt := some db.datetimeNow }
        else row }
  | .rateBuckets buckets => { db with rateBuckets := buckets }

/-- What happens, in any order. A statement whose answer is lost has been executed, and
    its request fails. -/
inductive EnrollEvent where
  | start (req : EnrollRequest)
  /-- The next statement of a request. -/
  | statement (request : Nat)
  /-- A statement of a request fails, or the worker of the request dies. -/
  | fails (request : Nat)
  | operator (change : OperatorChange)

/-- The answer of a request that failed: the router's internal error. -/
def internalError : EnrollAnswer := .error ⟨.internal, "An unexpected error occurred."⟩

/-- A client row, with the request whose statement inserted it. -/
structure CreatedClient where
  request : Nat
  req : EnrollRequest
  row : ClientRow

/-- The clients a statement inserted. -/
def CreatedClient.between (request : Nat) (req : EnrollRequest) (before after : IdentityDb) :
    List CreatedClient :=
  (after.clients.drop before.clients.length).map fun row => ⟨request, req, row⟩

/-- No client is created where the clients stay the same. -/
theorem CreatedClient.between_of_eq (request : Nat) (req : EnrollRequest) {before after : IdentityDb}
    (h : after.clients = before.clients) : between request req before after = [] := by
  rw [between, h, List.drop_length, List.map_nil]

/-- A row appended to the clients is one client created, by that request. -/
theorem CreatedClient.between_of_append (request : Nat) (req : EnrollRequest)
    {before after : IdentityDb} {row : ClientRow} (h : after.clients = before.clients ++ [row]) :
    between request req before after = [⟨request, req, row⟩] := by
  rw [between, h, List.drop_left, List.map_singleton]

/-- The store, the requests with what they still have to execute, and the clients they
    created. -/
structure EnrollWorld where
  db : IdentityDb
  requests : List (EnrollRequest × Script IdentityDb EnrollAnswer)
  created : List CreatedClient

namespace EnrollWorld

/-- A store that requests have not started on. -/
def new (db : IdentityDb) : EnrollWorld := ⟨db, [], []⟩

/-- Execute the next statement of a request. -/
def execute (world : EnrollWorld) (request : Nat) : EnrollWorld :=
  match world.requests[request]? with
  | some (req, .stmt effect next) =>
    { db := effect world.db
      requests := world.requests.set request (req, next world.db)
      created := world.created ++
        CreatedClient.between request req world.db (effect world.db) }
  | _ => world

/-- A request that is not finished ends in an internal error. -/
def fail (world : EnrollWorld) (request : Nat) : EnrollWorld :=
  match world.requests[request]? with
  | some (req, .stmt _ _) =>
    { world with requests := world.requests.set request (req, .done internalError) }
  | _ => world

/-- One event. -/
def apply (sha256Hex : String → String) (world : EnrollWorld) : EnrollEvent → EnrollWorld
  | .start req => { world with requests := world.requests ++ [(req, handleEnroll sha256Hex req)] }
  | .statement request => world.execute request
  | .fails request => world.fail request
  | .operator change => { world with db := change.apply world.db }

/-- The world after a run of events. -/
def run (sha256Hex : String → String) (db : IdentityDb) (events : List EnrollEvent) :
    EnrollWorld :=
  Run.runAll (apply sha256Hex) (new db) events

end EnrollWorld

/-! ## The phases of a request -/

/-- The body of a request, where the route accepts it. -/
def EnrollRequest.accepted (req : EnrollRequest) : Option EnrollBody :=
  match req.body with
  | .error _ => none
  | .ok value => (parseEnrollBody value).toOption

/-- The hash of the token a request presents. -/
def EnrollRequest.tokenHash (sha256Hex : String → String) (req : EnrollRequest) : Option String :=
  req.accepted.map fun body => sha256Hex body.token

/-- Where a request stands: before which statement, or at its end. -/
inductive EnrollPhase where
  | clock
  | claim (now : Int)
  | redeem (body : EnrollBody)
  | select (body : EnrollBody)
  | check (body : EnrollBody) (accountId : String)
  | create (body : EnrollBody) (account : AccountRow)
  | readBack (account : AccountRow)
  | ended (answer : EnrollAnswer)

namespace EnrollPhase

variable (sha256Hex : String → String) (req : EnrollRequest)

/-- What is left to execute. -/
def script : EnrollPhase → Script IdentityDb EnrollAnswer
  | .clock => handleEnroll sha256Hex req
  | .claim now =>
    (onRateBuckets (checkRateLimit now (enrollBucket req.ip) ENROLL_LIMIT
      RATE_WINDOW_SECONDS)).bind fun rate =>
        if rate.allowed then req.admitted sha256Hex
        else pure (.rateLimited ⟨.rateLimited, "Too many enrollment attempts from this network."⟩
          rate.retryAfterSeconds)
  | .redeem body =>
    (consumeEnrollment (sha256Hex body.token) req.minted.clientId).bind (req.redeemed body)
  | .select body => (consumedAccount (sha256Hex body.token)).bind (req.redeemed body)
  | .check body accountId => (getIdentityAccount accountId).bind (req.withAccount body)
  | .create body account =>
    (createClient (req.newClient body account)).bind fun client => pure (req.answer account client)
  | .readBack account =>
    (readBackClient req.minted.clientId).bind fun client => pure (req.answer account client)
  | .ended answer => .done answer

/-- The refusal of a token that is unknown, consumed or expired. -/
def notValid : EnrollAnswer :=
  .error ⟨.forbidden, "That enrollment token is not valid. Tokens are single-use and expire."⟩

/-- The refusal of a suspended account. -/
def accountSuspended : EnrollAnswer := .error ⟨.forbidden, "That account is suspended."⟩

/-- The phase after the rate limit let a request through. -/
def admitted : EnrollPhase :=
  match req.body with
  | .error err => .ended (.error err)
  | .ok value =>
    match parseEnrollBody value with
    | .error message => .ended (.error (invalidRequest message))
    | .ok body => .redeem body

/-- One statement: what it makes of the store, and the phase it leads to. -/
def step (db : IdentityDb) : EnrollPhase → IdentityDb × EnrollPhase
  | .clock => (db, .claim (sqlDatetime db.now))
  | .claim now =>
    let claim := (checkRateLimit now (enrollBucket req.ip) ENROLL_LIMIT RATE_WINDOW_SECONDS).run
      db.rateBuckets
    ({ db with rateBuckets := claim.2 },
      if claim.1.allowed then admitted req
      else .ended (.rateLimited
        ⟨.rateLimited, "Too many enrollment attempts from this network."⟩
        claim.1.retryAfterSeconds))
  | .redeem body =>
    let update := db.consume (sha256Hex body.token) req.minted.clientId
    (update.1, if update.2 then .select body else .ended notValid)
  | .select body =>
    (db, match db.enrollments (sha256Hex body.token) with
      | none => .ended notValid
      | some row => .check body row.accountId)
  | .check body accountId =>
    (db, match db.accounts accountId with
      | none => .ended (.error ⟨.unavailable,
          "That enrollment token points at an account that does not exist."⟩)
      | some account =>
        if account.suspendedAt.isSome then .ended accountSuspended else .create body account)
  | .create body account =>
    let insert := db.insertClient ((req.newClient body account).row db.datetimeNow)
    (insert.1, if insert.2 then .readBack account else .ended internalError)
  | .readBack account =>
    (db, .ended (req.answer account
      (match db.clients.find? (·.id == req.minted.clientId) with
        | none => .error ("client " ++ req.minted.clientId ++
            " was inserted but could not be read back")
        | some row => .ok row)))
  | .ended answer => (db, .ended answer)

variable {sha256Hex req}

/-- The first phase of an admitted request runs what the request's script runs. -/
theorem script_admitted : (admitted req).script sha256Hex req = req.admitted sha256Hex := by
  unfold admitted EnrollRequest.admitted
  cases req.body with
  | error err => rfl
  | ok value =>
    dsimp only
    cases parseEnrollBody value <;> rfl

/-- The next statement of a request is the step of its phase. -/
theorem script_step {phase : EnrollPhase} {effect : IdentityDb → IdentityDb}
    {next : IdentityDb → Script IdentityDb EnrollAnswer}
    (h : phase.script sha256Hex req = .stmt effect next) (db : IdentityDb) :
    effect db = (phase.step sha256Hex req db).1 ∧
      next db = (phase.step sha256Hex req db).2.script sha256Hex req := by
  cases phase with
  | clock =>
    cases h
    exact ⟨rfl, rfl⟩
  -- the next script is an `if` or a `match` on what the statement answered, as the next phase is
  | claim now =>
    cases h
    refine ⟨rfl, ?_⟩
    show (if ((checkRateLimit now (enrollBucket req.ip) ENROLL_LIMIT RATE_WINDOW_SECONDS).run
      db.rateBuckets).1.allowed then req.admitted sha256Hex else _) = _
    unfold step
    dsimp only
    split
    · exact script_admitted.symm
    · rfl
  | redeem body =>
    cases h
    refine ⟨rfl, ?_⟩
    show (if (db.consume (sha256Hex body.token) req.minted.clientId).2 then
      consumedAccount (sha256Hex body.token) else pure none).bind (req.redeemed body) = _
    unfold step
    dsimp only
    split <;> rfl
  | select body =>
    cases h
    refine ⟨rfl, ?_⟩
    show req.redeemed body ((db.enrollments (sha256Hex body.token)).map (·.accountId)) = _
    unfold step
    dsimp only
    cases db.enrollments (sha256Hex body.token) <;> rfl
  | check body accountId =>
    cases h
    refine ⟨rfl, ?_⟩
    show req.withAccount body (db.accounts accountId) = _
    unfold step
    dsimp only
    cases db.accounts accountId with
    | none => rfl
    | some account =>
      dsimp only [EnrollRequest.withAccount]
      split <;> rfl
  | create body account =>
    cases h
    refine ⟨rfl, ?_⟩
    show (if (db.insertClient ((req.newClient body account).row db.datetimeNow)).2 then
      readBackClient req.minted.clientId else pure (.error "UNIQUE constraint failed")).bind _ = _
    unfold step
    dsimp only
    split <;> rfl
  | readBack account =>
    cases h
    refine ⟨rfl, ?_⟩
    unfold step
    dsimp only
    cases db.clients.find? (·.id == req.minted.clientId) <;> rfl
  | ended answer => cases h

/-- A script with a statement left is not at its end. -/
theorem exists_stmt (sha256Hex : String → String) (req : EnrollRequest) {phase : EnrollPhase}
    (h : ∀ answer, phase ≠ .ended answer) :
    ∃ effect next, phase.script sha256Hex req = .stmt effect next := by
  cases phase with
  | ended answer => exact absurd rfl (h answer)
  | _ => exact ⟨_, _, rfl⟩

end EnrollPhase

/-! ## The system of phases -/

/-- The system with the phases of its requests instead of their scripts. -/
structure PhaseWorld where
  db : IdentityDb
  phases : List (EnrollRequest × EnrollPhase)
  created : List CreatedClient

namespace PhaseWorld

variable (sha256Hex : String → String)

/-- The world of the scripts. -/
def world (phaseWorld : PhaseWorld) : EnrollWorld :=
  ⟨phaseWorld.db, phaseWorld.phases.map fun p => (p.1, p.2.script sha256Hex p.1),
    phaseWorld.created⟩

/-- A request moves to another phase, and the store with it. -/
def move (w : PhaseWorld) (request : Nat) (req : EnrollRequest) (db : IdentityDb)
    (phase : EnrollPhase) : PhaseWorld where
  db := db
  phases := w.phases.set request (req, phase)
  created := w.created ++ CreatedClient.between request req w.db db

/-- One event. -/
def apply (w : PhaseWorld) : EnrollEvent → PhaseWorld
  | .start req => { w with phases := w.phases ++ [(req, .clock)] }
  | .statement request =>
    match w.phases[request]? with
    | none => w
    | some (_, .ended _) => w
    | some (req, phase) =>
      w.move request req (phase.step sha256Hex req w.db).1 (phase.step sha256Hex req w.db).2
  | .fails request =>
    match w.phases[request]? with
    | none => w
    | some (_, .ended _) => w
    | some (req, _) => w.move request req w.db (.ended internalError)
  | .operator change => { w with db := change.apply w.db }

variable {sha256Hex}

/-- An open request's next statement moves it to the next phase. -/
theorem apply_statement {w : PhaseWorld} {request : Nat} {req : EnrollRequest}
    {phase : EnrollPhase} (hget : w.phases[request]? = some (req, phase))
    (hopen : ∀ answer, phase ≠ .ended answer) :
    w.apply sha256Hex (.statement request) =
      w.move request req (phase.step sha256Hex req w.db).1 (phase.step sha256Hex req w.db).2 := by
  simp only [apply, hget]

/-- A failing statement ends an open request with an internal error and changes no row. -/
theorem apply_fails {w : PhaseWorld} {request : Nat} {req : EnrollRequest}
    {phase : EnrollPhase} (hget : w.phases[request]? = some (req, phase))
    (hopen : ∀ answer, phase ≠ .ended answer) :
    w.apply sha256Hex (.fails request) = w.move request req w.db (.ended internalError) := by
  simp only [apply, hget]

/-- A request is done when it was never started or has ended. -/
def Idle (w : PhaseWorld) (request : Nat) : Prop :=
  ∀ req phase, w.phases[request]? = some (req, phase) → ∃ answer, phase = .ended answer

/-- A request is idle or stands in a phase it can still leave. -/
theorem idle_or_open (w : PhaseWorld) (request : Nat) : w.Idle request ∨
    ∃ req phase, w.phases[request]? = some (req, phase) ∧ ∀ answer, phase ≠ .ended answer := by
  cases hget : w.phases[request]? with
  -- no such request
  | none =>
    left
    intro req phase h
    rw [hget] at h
    cases h
  | some p =>
    obtain ⟨req, phase⟩ := p
    by_cases hended : ∃ answer, phase = .ended answer
    · left
      intro req' phase' h
      rw [hget] at h
      cases h
      exact hended
    · exact .inr ⟨req, phase, rfl, not_exists.mp hended⟩

/-- An idle request does nothing. -/
theorem apply_idle {w : PhaseWorld} {request : Nat} (hidle : w.Idle request) :
    w.apply sha256Hex (.statement request) = w ∧ w.apply sha256Hex (.fails request) = w := by
  cases hget : w.phases[request]? with
  | none => simp only [apply, hget, and_self]
  | some p =>
    obtain ⟨req, phase⟩ := p
    obtain ⟨answer, rfl⟩ := hidle req phase hget
    simp only [apply, hget, and_self]

/-- What one event can do: a request starts, the operator changes something, a request takes
    its next statement or fails at it, or nothing happens. -/
theorem apply_cases {motive : PhaseWorld → Prop} {w : PhaseWorld} (event : EnrollEvent)
    (idle : motive w)
    (start : ∀ req, motive { w with phases := w.phases ++ [(req, .clock)] })
    (operator : ∀ change : OperatorChange, motive { w with db := change.apply w.db })
    (statement : ∀ request req phase, w.phases[request]? = some (req, phase) →
      (∀ answer, phase ≠ .ended answer) → motive
        (w.move request req (phase.step sha256Hex req w.db).1 (phase.step sha256Hex req w.db).2))
    (fails : ∀ request req phase, w.phases[request]? = some (req, phase) →
      (∀ answer, phase ≠ .ended answer) →
        motive (w.move request req w.db (.ended internalError))) :
    motive (w.apply sha256Hex event) := by
  cases event with
  | start req => exact start req
  | operator change => exact operator change
  -- a statement of an idle request does nothing
  | statement request =>
    rcases w.idle_or_open request with hidle | ⟨req, phase, hget, hopen⟩
    · rw [(apply_idle hidle).1]
      exact idle
    · rw [apply_statement hget hopen]
      exact statement request req phase hget hopen
  | fails request =>
    rcases w.idle_or_open request with hidle | ⟨req, phase, hget, hopen⟩
    · rw [(apply_idle hidle).2]
      exact idle
    · rw [apply_fails hget hopen]
      exact fails request req phase hget hopen

/-- A request of the world has the script its phase stands for. -/
theorem requests_getElem? (w : PhaseWorld) (request : Nat) :
    (w.world sha256Hex).requests[request]? =
      (w.phases[request]?).map fun p => (p.1, p.2.script sha256Hex p.1) := by
  simp [world]

/-- An idle request does nothing in the world of the scripts either. -/
theorem world_idle {w : PhaseWorld} {request : Nat} (hidle : w.Idle request) :
    (w.world sha256Hex).execute request = w.world sha256Hex ∧
      (w.world sha256Hex).fail request = w.world sha256Hex := by
  unfold EnrollWorld.execute EnrollWorld.fail
  rw [requests_getElem?]
  cases hget : w.phases[request]? with
  | none => exact ⟨rfl, rfl⟩
  | some p =>
    obtain ⟨req, phase⟩ := p
    obtain ⟨answer, rfl⟩ := hidle req phase hget
    exact ⟨rfl, rfl⟩

/-- Moving a request moves its script, and records the clients its statement created. -/
theorem world_move (w : PhaseWorld) (request : Nat) (req : EnrollRequest) (db : IdentityDb)
    (phase : EnrollPhase) : (w.move request req db phase).world sha256Hex =
      { db := db
        requests := (w.world sha256Hex).requests.set request (req, phase.script sha256Hex req)
        created := w.created ++ CreatedClient.between request req w.db db } := by
  simp only [world, move, List.map_set]

/-- The scripts and their phases move together. -/
theorem world_apply (w : PhaseWorld) (event : EnrollEvent) :
    (w.apply sha256Hex event).world sha256Hex = (w.world sha256Hex).apply sha256Hex event := by
  cases event with
  | start req =>
    show (⟨_, (w.phases ++ [(req, EnrollPhase.clock)]).map _, _⟩ : EnrollWorld) = ⟨_, _, _⟩
    rw [List.map_append]
    rfl
  | operator change => rfl
  | statement request =>
    show _ = (w.world sha256Hex).execute request
    rcases w.idle_or_open request with hidle | ⟨req, phase, hget, hopen⟩
    · rw [(apply_idle hidle).1, (world_idle hidle).1]
    · -- an open request has a next statement, and its phase tells which
      obtain ⟨effect, next, hscript⟩ := EnrollPhase.exists_stmt sha256Hex req hopen
      obtain ⟨heffect, hnext⟩ := EnrollPhase.script_step hscript w.db
      rw [apply_statement hget hopen, world_move, ← heffect, ← hnext]
      unfold EnrollWorld.execute
      rw [requests_getElem?, hget, Option.map_some, hscript]
      rfl
  | fails request =>
    show _ = (w.world sha256Hex).fail request
    rcases w.idle_or_open request with hidle | ⟨req, phase, hget, hopen⟩
    · rw [(apply_idle hidle).2, (world_idle hidle).2]
    · obtain ⟨effect, next, hscript⟩ := EnrollPhase.exists_stmt sha256Hex req hopen
      rw [apply_fails hget hopen, world_move, CreatedClient.between_of_eq _ _ rfl,
        List.append_nil]
      unfold EnrollWorld.fail
      rw [requests_getElem?, hget, Option.map_some, hscript]
      rfl

/-- The phases after a run of events. -/
def run (sha256Hex : String → String) (db : IdentityDb) (events : List EnrollEvent) :
    PhaseWorld :=
  Run.runAll (apply sha256Hex) ⟨db, [], []⟩ events

/-- A run of the requests is a run of their phases. -/
theorem world_run (db : IdentityDb) (events : List EnrollEvent) :
    EnrollWorld.run sha256Hex db events = (run sha256Hex db events).world sha256Hex := by
  have hrun : ∀ w : PhaseWorld,
      Run.runAll (EnrollWorld.apply sha256Hex) (w.world sha256Hex) events =
        (Run.runAll (apply sha256Hex) w events).world sha256Hex := by
    induction events with
    | nil => exact fun _ => rfl
    | cons event events ih =>
      intro w
      rw [Run.runAll_cons, Run.runAll_cons, ← world_apply, ih]
  exact hrun ⟨db, [], []⟩

end PhaseWorld

/-! ## What a token is held for -/

namespace EnrollPhase

/-- The body a phase works with. -/
def body : EnrollPhase → Option EnrollBody
  | .redeem body | .select body | .check body _ | .create body _ => some body
  | _ => none

/-- The request redeemed its token and has not traded it yet. -/
def holding : EnrollPhase → Nat
  | .select _ | .check _ _ | .create _ _ => 1
  | _ => 0

/-- The request created its client. -/
def trading : EnrollPhase → Nat
  | .readBack _ | .ended (.enrolled _) => 1
  | _ => 0

/-- The request has not redeemed its token. -/
def early : EnrollPhase → Bool
  | .clock | .claim _ | .redeem _ => true
  | _ => false

/-- The request is past its insert, or ended before it. -/
def late : EnrollPhase → Bool
  | .readBack _ | .ended _ => true
  | _ => false

/-- The body an admitted request goes on with is the one it was accepted with. -/
theorem accepted_admitted {req : EnrollRequest} {body : EnrollBody}
    (h : body ∈ (admitted req).body) : req.accepted = some body := by
  unfold admitted at h
  unfold EnrollRequest.accepted
  cases hread : req.body with
  | error err =>
    rw [hread] at h
    cases h
  | ok value =>
    rw [hread] at h
    dsimp only at h ⊢
    cases hparse : parseEnrollBody value with
    -- a body that is refused admits no request
    | error message =>
      rw [hparse] at h
      cases h
    | ok accepted =>
      rw [hparse] at h
      exact h

/-- A request that has just been admitted holds no token and trades none. -/
theorem admitted_holding (req : EnrollRequest) :
    (admitted req).holding = 0 ∧ (admitted req).trading = 0 := by
  unfold admitted
  cases req.body with
  | error err => exact ⟨rfl, rfl⟩
  | ok value =>
    dsimp only
    cases parseEnrollBody value <;> exact ⟨rfl, rfl⟩

/-- The step leaves the tokens and the clients, and the request holds and trades no more
    than it did. -/
structure Quiet (req : EnrollRequest) (db : IdentityDb) (phase : EnrollPhase)
    (next : IdentityDb × EnrollPhase) : Prop where
  enrollments : next.1.enrollments = db.enrollments
  clients : next.1.clients = db.clients
  body : ∀ body ∈ next.2.body, phase.body = some body ∨ req.accepted = some body
  holding : next.2.holding ≤ phase.holding
  trading : next.2.trading ≤ phase.trading
  late : phase.late = true → next.2.late = true

/-- A step to an end is quiet, where it trades nothing. -/
theorem quiet_ended {req : EnrollRequest} {db db' : IdentityDb} {phase : EnrollPhase}
    {answer : EnrollAnswer} (henrollments : db'.enrollments = db.enrollments)
    (hclients : db'.clients = db.clients)
    (htrading : (ended answer).trading ≤ phase.trading) :
    Quiet req db phase (db', .ended answer) where
  enrollments := henrollments
  clients := hclients
  body body h := by cases h
  holding := Nat.zero_le _
  trading := htrading
  late _ := rfl

end EnrollPhase

/-- The token can be redeemed: its row is there, not consumed and not expired. -/
def IdentityDb.Redeemable (db : IdentityDb) (tokenHash : String) : Prop :=
  ∃ row, db.enrollments tokenHash = some row ∧ row.consumedAt = none ∧
    sqlDatetime db.now < sqlDatetime row.expiresAt

/-- The update consumes a token that can be redeemed, and no other. -/
theorem IdentityDb.consume_cases (db : IdentityDb) (tokenHash clientId : String) :
    (∃ row, db.enrollments tokenHash = some row ∧ row.consumedAt = none ∧
      sqlDatetime db.now < sqlDatetime row.expiresAt ∧
      db.consume tokenHash clientId =
        ({ db with
            enrollments := fun h =>
              if h = tokenHash then some (row.consumed db.datetimeNow clientId)
              else db.enrollments h }, true)) ∨
    (¬ db.Redeemable tokenHash ∧ db.consume tokenHash clientId = (db, false)) := by
  unfold consume Redeemable
  cases hrow : db.enrollments tokenHash with
  | none => exact .inr ⟨by simp, rfl⟩
  | some row =>
    dsimp only
    -- the row is claimed, or it was consumed or is past its time
    by_cases hfree : row.consumedAt = none ∧ sqlDatetime db.now < sqlDatetime row.expiresAt
    · exact .inl ⟨row, rfl, hfree.1, hfree.2, if_pos hfree⟩
    · refine .inr ⟨?_, if_neg hfree⟩
      rintro ⟨row', hrow', hfree'⟩
      cases hrow'
      exact hfree hfree'

/-- An insert appends its row or changes nothing. -/
theorem IdentityDb.insertClient_cases (db : IdentityDb) (row : ClientRow) :
    db.insertClient row = ({ db with clients := db.clients ++ [row] }, true) ∨
    db.insertClient row = (db, false) := by
  unfold insertClient
  rcases Table.insertOrIgnore_cases clientConflict row db.clients with ⟨h, -⟩ | ⟨h, -⟩
  · right
    rw [h]
  · left
    rw [h]

namespace EnrollPhase

/-- Before the consuming statement a phase holds nothing and trades nothing. -/
theorem of_early {phase : EnrollPhase} (h : phase.early = true) :
    phase.holding = 0 ∧ phase.trading = 0 ∧ phase.late = false := by
  cases phase <;> simp_all [early, holding, trading, late]

variable (sha256Hex : String → String) (req : EnrollRequest)

/-- The redemption consumes its token, or changes nothing. -/
theorem redeem_cases (body : EnrollBody) (db : IdentityDb) :
    (∃ row, db.enrollments (sha256Hex body.token) = some row ∧ row.consumedAt = none ∧
      sqlDatetime db.now < sqlDatetime row.expiresAt ∧
      (redeem body).step sha256Hex req db =
        ({ db with
            enrollments := fun h =>
              if h = sha256Hex body.token then
                some (row.consumed db.datetimeNow req.minted.clientId)
              else db.enrollments h }, .select body)) ∨
    Quiet req db (.redeem body) ((redeem body).step sha256Hex req db) := by
  dsimp only [step]
  rcases db.consume_cases (sha256Hex body.token) req.minted.clientId with
    ⟨row, hrow, hfree, hintime, hconsume⟩ | ⟨-, hconsume⟩
  · left
    refine ⟨row, hrow, hfree, hintime, ?_⟩
    rw [hconsume]
    rfl
  · right
    rw [hconsume]
    exact quiet_ended rfl rfl (Nat.le_refl 0)

/-- The insert creates the client, or changes nothing. -/
theorem create_cases (body : EnrollBody) (account : AccountRow) (db : IdentityDb) :
    (∃ row, row.id = req.minted.clientId ∧ (create body account).step sha256Hex req db =
      ({ db with clients := db.clients ++ [row] }, .readBack account)) ∨
    Quiet req db (.create body account) ((create body account).step sha256Hex req db) := by
  dsimp only [step]
  rcases db.insertClient_cases ((req.newClient body account).row db.datetimeNow) with
    hinsert | hinsert
  · left
    refine ⟨(req.newClient body account).row db.datetimeNow, rfl, ?_⟩
    rw [hinsert]
    rfl
  -- a constraint failed: the request ends without a client
  · right
    rw [hinsert]
    exact quiet_ended rfl rfl (Nat.zero_le _)

/-- Every other statement is quiet. -/
theorem quiet_step (phase : EnrollPhase) (db : IdentityDb) (hredeem : ∀ body, phase ≠ .redeem body)
    (hcreate : ∀ body account, phase ≠ .create body account) :
    Quiet req db phase (phase.step sha256Hex req db) := by
  cases phase with
  | redeem body => exact absurd rfl (hredeem body)
  | create body account => exact absurd rfl (hcreate body account)
  | clock =>
    exact ⟨rfl, rfl, fun _ h => (by cases h), Nat.le_refl 0, Nat.le_refl 0, fun h => (by cases h)⟩
  -- within the rate limit the request goes on as admitted, else it is refused
  | claim now =>
    unfold step
    dsimp only
    split
    · exact ⟨rfl, rfl, fun _ h => .inr (accepted_admitted h), (admitted_holding req).1.le,
        (admitted_holding req).2.le, fun h => (by cases h)⟩
    · exact quiet_ended rfl rfl (Nat.le_refl 0)
  | select body =>
    dsimp only [step]
    cases db.enrollments (sha256Hex body.token) with
    | none => exact quiet_ended rfl rfl (Nat.le_refl 0)
    | some row =>
      exact ⟨rfl, rfl, fun _ h => .inl h, Nat.le_refl 1, Nat.le_refl 0, fun h => (by cases h)⟩
  -- a suspended account ends the request, its token spent
  | check body accountId =>
    dsimp only [step]
    cases db.accounts accountId with
    | none => exact quiet_ended rfl rfl (Nat.le_refl 0)
    | some account =>
      dsimp only
      split
      · exact quiet_ended rfl rfl (Nat.le_refl 0)
      · exact ⟨rfl, rfl, fun _ h => .inl h, Nat.le_refl 1, Nat.le_refl 0,
          fun h => (by cases h)⟩
  -- the row just inserted is answered, where it is found
  | readBack account =>
    refine quiet_ended rfl rfl ?_
    cases db.clients.find? (·.id == req.minted.clientId) with
    | none => exact Nat.zero_le 1
    | some row => exact Nat.le_refl 1
  | ended answer => exact quiet_ended rfl rfl (Nat.le_refl _)

/-- What a statement can do: create the client, redeem the token, or neither. -/
theorem step_cases (phase : EnrollPhase) (db : IdentityDb) :
    (∃ body account row, phase = .create body account ∧ row.id = req.minted.clientId ∧
      phase.step sha256Hex req db =
        ({ db with clients := db.clients ++ [row] }, .readBack account)) ∨
    (∃ body row, phase = .redeem body ∧ db.enrollments (sha256Hex body.token) = some row ∧
      row.consumedAt = none ∧ sqlDatetime db.now < sqlDatetime row.expiresAt ∧
      phase.step sha256Hex req db =
        ({ db with
            enrollments := fun h =>
              if h = sha256Hex body.token then
                some (row.consumed db.datetimeNow req.minted.clientId)
              else db.enrollments h }, .select body)) ∨
    Quiet req db phase (phase.step sha256Hex req db) := by
  cases phase with
  -- of the eight statements the redemption and the insert write what is counted here
  | redeem body =>
    right
    rcases redeem_cases sha256Hex req body db with ⟨row, hredeemed⟩ | hquiet
    · exact .inl ⟨body, row, rfl, hredeemed⟩
    · exact .inr hquiet
  | create body account =>
    rcases create_cases sha256Hex req body account db with ⟨row, hcreated⟩ | hquiet
    · exact .inl ⟨body, account, row, rfl, hcreated⟩
    · exact .inr (.inr hquiet)
  | _ =>
    right; right
    exact quiet_step sha256Hex req _ db (fun _ => nofun) (fun _ _ => nofun)

end EnrollPhase

/-- Whether a request presents this token. -/
def presents (sha256Hex : String → String) (tokenHash : String) (req : EnrollRequest) : Bool :=
  req.tokenHash sha256Hex == some tokenHash

/-- The token has been consumed. -/
def IdentityDb.Consumed (db : IdentityDb) (tokenHash : String) : Prop :=
  ∃ row, db.enrollments tokenHash = some row ∧ row.consumedAt ≠ none

/-- An accepted request presents the hash of its body's token. -/
theorem presents_of_accepted {sha256Hex : String → String} {req : EnrollRequest}
    {body : EnrollBody} (h : req.accepted = some body) (tokenHash : String) :
    presents sha256Hex tokenHash req = true ↔ sha256Hex body.token = tokenHash := by
  simp [presents, EnrollRequest.tokenHash, h]

/-- The operator changes no enrollment that is there. -/
theorem OperatorChange.apply_enrollments (change : OperatorChange) {db : IdentityDb}
    {tokenHash : String} {row : EnrollmentRow} (h : db.enrollments tokenHash = some row) :
    (change.apply db).enrollments tokenHash = some row := by
  cases change with
  | token minted accountId expiresAt note =>
    unfold apply
    dsimp only
    split
    · exact h
    · rename_i hfree
      -- a hash that is not stored yet is not this one
      have hne : tokenHash ≠ minted := by
        rintro rfl
        rw [h] at hfree
        exact hfree rfl
      show (if tokenHash = minted then _ else db.enrollments tokenHash) = _
      rw [if_neg hne, h]
  | _ => exact h

/-- The store's clock is read as the instant it shows. -/
theorem sqlDatetime_datetimeNow (db : IdentityDb) :
    sqlDatetime db.datetimeNow = sqlDatetime db.now := by
  unfold IdentityDb.datetimeNow
  exact Int.mul_ediv_cancel (sqlDatetime db.now) (by decide)

namespace PhaseWorld

variable (sha256Hex : String → String) (tokenHash : String)

/-- How many requests hold the token. -/
def held (phases : List (EnrollRequest × EnrollPhase)) : Nat :=
  (phases.map fun p => if presents sha256Hex tokenHash p.1 then p.2.holding else 0).sum

/-- How many requests traded the token. -/
def traded (phases : List (EnrollRequest × EnrollPhase)) : Nat :=
  (phases.map fun p => if presents sha256Hex tokenHash p.1 then p.2.trading else 0).sum

/-- The clients created from the token. -/
def createdFrom (created : List CreatedClient) : List CreatedClient :=
  created.filter fun c => presents sha256Hex tokenHash c.req

/-- The token was consumed in time, by the requests that hold it and for the clients
    created from it. -/
def ConsumedBy (w : PhaseWorld) : Prop :=
  ∃ row consumedAt, w.db.enrollments tokenHash = some row ∧
    row.consumedAt = some consumedAt ∧ sqlDatetime consumedAt < sqlDatetime row.expiresAt ∧
    (∀ p ∈ w.phases, presents sha256Hex tokenHash p.1 = true → p.2.holding = 1 →
      row.consumedByClient = some p.1.minted.clientId) ∧
    ∀ c ∈ createdFrom sha256Hex tokenHash w.created,
      c.row.id = c.req.minted.clientId ∧ row.consumedByClient = some c.row.id

/-- A token is held or traded by one request at most, and only once it was consumed. -/
structure Inv (w : PhaseWorld) : Prop where
  /-- Phases work with the body that was accepted. -/
  accepted : ∀ p ∈ w.phases, ∀ body ∈ p.2.body, p.1.accepted = some body
  once : held sha256Hex tokenHash w.phases +
    (createdFrom sha256Hex tokenHash w.created).length ≤ 1
  consumed : 0 < held sha256Hex tokenHash w.phases +
      (createdFrom sha256Hex tokenHash w.created).length → ConsumedBy sha256Hex tokenHash w
  traded : traded sha256Hex tokenHash w.phases ≤
    (createdFrom sha256Hex tokenHash w.created).length
  /-- A client is created by a request that is past its insert. -/
  created : ∀ c ∈ w.created, ∃ phase, w.phases[c.request]? = some (c.req, phase) ∧
    phase.late = true

variable {sha256Hex tokenHash}

/-- A store no request has touched satisfies the invariant. -/
theorem new_inv (db : IdentityDb) : Inv sha256Hex tokenHash ⟨db, [], []⟩ where
  accepted p hp := by cases hp
  once := Nat.zero_le 1
  consumed h := absurd h (Nat.lt_irrefl 0)
  traded := Nat.le_refl 0
  created c hc := by cases hc

/-- What a phase adds to a sum over all of them. -/
theorem sum_map_set (f : EnrollRequest × EnrollPhase → Nat)
    {phases : List (EnrollRequest × EnrollPhase)} {request : Nat}
    {old : EnrollRequest × EnrollPhase} (hget : phases[request]? = some old)
    (new : EnrollRequest × EnrollPhase) :
    ((phases.set request new).map f).sum + f old = (phases.map f).sum + f new := by
  induction phases generalizing request with
  | nil => cases hget
  | cons p phases ih =>
    cases request with
    -- the request that moves is the first, or one behind it
    | zero =>
      cases hget
      simp only [List.set_cons_zero, List.map_cons, List.sum_cons]
      omega
    | succ request =>
      have h := ih hget
      simp only [List.set_cons_succ, List.map_cons, List.sum_cons]
      omega

/-- A request that presents the token is counted. -/
theorem holding_le_held {phases : List (EnrollRequest × EnrollPhase)}
    {p : EnrollRequest × EnrollPhase} (hp : p ∈ phases)
    (hpresents : presents sha256Hex tokenHash p.1 = true) :
    p.2.holding ≤ held sha256Hex tokenHash phases := by
  have hmem := List.mem_map_of_mem
    (f := fun p => if presents sha256Hex tokenHash p.1 then p.2.holding else 0) hp
  have hle := List.le_sum_of_mem hmem
  rwa [if_pos hpresents] at hle

/-- A request that starts holds no token yet. -/
theorem held_start (phases : List (EnrollRequest × EnrollPhase)) (req : EnrollRequest) :
    held sha256Hex tokenHash (phases ++ [(req, .clock)]) = held sha256Hex tokenHash phases := by
  simp [held, EnrollPhase.holding]

/-- And has traded none. -/
theorem traded_start (phases : List (EnrollRequest × EnrollPhase)) (req : EnrollRequest) :
    traded sha256Hex tokenHash (phases ++ [(req, .clock)]) =
      traded sha256Hex tokenHash phases := by
  simp [traded, EnrollPhase.trading]

section move

variable {w : PhaseWorld} {request : Nat} {req : EnrollRequest} {old phase : EnrollPhase}
  {db : IdentityDb}

variable (sha256Hex tokenHash) in
/-- What is held changes by what the moving request held before and holds now. -/
theorem held_move (hget : w.phases[request]? = some (req, old)) (db : IdentityDb)
    (phase : EnrollPhase) :
    held sha256Hex tokenHash (w.move request req db phase).phases +
        (if presents sha256Hex tokenHash req then old.holding else 0) =
      held sha256Hex tokenHash w.phases +
        (if presents sha256Hex tokenHash req then phase.holding else 0) :=
  sum_map_set (fun p => if presents sha256Hex tokenHash p.1 then p.2.holding else 0) hget
    (req, phase)

variable (sha256Hex tokenHash) in
/-- And likewise what has been traded. -/
theorem traded_move (hget : w.phases[request]? = some (req, old)) (db : IdentityDb)
    (phase : EnrollPhase) :
    PhaseWorld.traded sha256Hex tokenHash (w.move request req db phase).phases +
        (if presents sha256Hex tokenHash req then old.trading else 0) =
      PhaseWorld.traded sha256Hex tokenHash w.phases +
        (if presents sha256Hex tokenHash req then phase.trading else 0) :=
  sum_map_set (fun p => if presents sha256Hex tokenHash p.1 then p.2.trading else 0) hget
    (req, phase)

/-- A move keeps every request's phase at the body the request was accepted with. -/
theorem accepted_move (h : Inv sha256Hex tokenHash w)
    (hbody : ∀ body ∈ phase.body, req.accepted = some body) :
    ∀ p ∈ (w.move request req db phase).phases, ∀ body ∈ p.2.body, p.1.accepted = some body := by
  intro p hp
  rcases List.mem_or_eq_of_mem_set hp with hp | rfl
  · exact h.accepted p hp
  · exact hbody

/-- The clients of before stay with their requests, a late one stays late. -/
theorem created_move (h : Inv sha256Hex tokenHash w)
    (hget : w.phases[request]? = some (req, old)) (hlate : old.late = true → phase.late = true) :
    ∀ c ∈ w.created, ∃ next, (w.move request req db phase).phases[c.request]? =
      some (c.req, next) ∧ next.late = true := by
  intro c hc
  obtain ⟨next, hnext, hnextlate⟩ := h.created c hc
  show ∃ next, (w.phases.set request (req, phase))[c.request]? = _ ∧ _
  -- of the request that moved the phase is the new one
  by_cases hsame : request = c.request
  · subst hsame
    rw [hget] at hnext
    cases hnext
    refine ⟨phase, ?_, hlate hnextlate⟩
    rw [List.getElem?_set_self (List.getElem?_eq_some_iff.mp hget).1]
  · refine ⟨next, ?_, hnextlate⟩
    rw [List.getElem?_set_ne hsame, hnext]

/-- A move that leaves the clients alone creates none. -/
theorem created_move_of_eq (hclients : db.clients = w.db.clients) :
    (w.move request req db phase).created = w.created := by
  show w.created ++ _ = w.created
  rw [CreatedClient.between_of_eq _ _ hclients, List.append_nil]

/-- A move that appends one row creates that client. -/
theorem created_move_of_append {row : ClientRow} (hclients : db.clients = w.db.clients ++ [row]) :
    (w.move request req db phase).created = w.created ++ [⟨request, req, row⟩] := by
  show w.created ++ _ = _
  rw [CreatedClient.between_of_append _ _ hclients]

/-- A request that creates a client is past its insert. -/
theorem placed_append (h : Inv sha256Hex tokenHash w)
    (hget : w.phases[request]? = some (req, old)) {account : AccountRow} {row : ClientRow}
    (hclients : db.clients = w.db.clients ++ [row]) :
    ∀ c ∈ (w.move request req db (.readBack account)).created, ∃ next,
      (w.move request req db (.readBack account)).phases[c.request]? = some (c.req, next) ∧
        next.late = true := by
  rw [created_move_of_append hclients]
  intro c hc
  rcases List.mem_append.mp hc with hc | hc
  · exact created_move h hget (fun _ => rfl) c hc
  · obtain rfl := List.mem_singleton.mp hc
    exact ⟨.readBack account, List.getElem?_set_self (List.getElem?_eq_some_iff.mp hget).1, rfl⟩

/-- A client created from the token counts for it. -/
theorem createdFrom_append_self {created : List CreatedClient} {c : CreatedClient}
    (h : presents sha256Hex tokenHash c.req = true) :
    createdFrom sha256Hex tokenHash (created ++ [c]) =
      createdFrom sha256Hex tokenHash created ++ [c] := by
  simp [createdFrom, h]

/-- A client created from another token does not. -/
theorem createdFrom_append_other {created : List CreatedClient} {c : CreatedClient}
    (h : presents sha256Hex tokenHash c.req ≠ true) :
    createdFrom sha256Hex tokenHash (created ++ [c]) =
      createdFrom sha256Hex tokenHash created := by
  simp [createdFrom, h]

/-- A move that leaves the token and what was created from it, to a phase that holds and
    trades no more of the token than the one before. -/
theorem Inv.quiet (h : Inv sha256Hex tokenHash w)
    (hget : w.phases[request]? = some (req, old))
    (htoken : db.enrollments tokenHash = w.db.enrollments tokenHash)
    (hcreated : createdFrom sha256Hex tokenHash (w.move request req db phase).created =
      createdFrom sha256Hex tokenHash w.created)
    (hbody : ∀ body ∈ phase.body, req.accepted = some body)
    (hless : presents sha256Hex tokenHash req = true →
      phase.holding ≤ old.holding ∧ phase.trading ≤ old.trading)
    (hplaced : ∀ c ∈ (w.move request req db phase).created, ∃ next,
      (w.move request req db phase).phases[c.request]? = some (c.req, next) ∧
        next.late = true) :
    Inv sha256Hex tokenHash (w.move request req db phase) := by
  have hheld := held_move sha256Hex tokenHash hget db phase
  have hmem : (req, old) ∈ w.phases := List.mem_of_getElem? hget
  -- a request of another token counts on neither side
  have hless_held : held sha256Hex tokenHash (w.move request req db phase).phases ≤
      held sha256Hex tokenHash w.phases := by
    by_cases hpresents : presents sha256Hex tokenHash req = true
    · have := (hless hpresents).1
      simp only [if_pos hpresents] at hheld
      omega
    · simp only [if_neg hpresents] at hheld
      omega
  refine ⟨accepted_move h hbody, ?_, ?_, ?_, hplaced⟩
  · have := h.once
    rw [hcreated]
    omega
  · intro hpos
    rw [hcreated] at hpos
    obtain ⟨row, consumedAt, hrow, hat, hintime, hholds, hfrom⟩ := h.consumed (by omega)
    refine ⟨row, consumedAt, htoken.trans hrow, hat, hintime, ?_, ?_⟩
    · intro p hp hpresents hone
      rcases List.mem_or_eq_of_mem_set hp with hp | rfl
      · exact hholds p hp hpresents hone
      · -- it held the token before, too
        have hbefore : old.holding = 1 := by
          have hle : old.holding ≤ 1 := by cases old <;> simp [EnrollPhase.holding]
          have hnew : phase.holding = 1 := hone
          have := (hless hpresents).1
          omega
        exact hholds (req, old) hmem hpresents hbefore
    · rw [hcreated]
      exact hfrom
  · have htraded := traded_move sha256Hex tokenHash hget db phase
    have hbefore := h.traded
    rw [hcreated]
    by_cases hpresents : presents sha256Hex tokenHash req = true
    · have := (hless hpresents).2
      simp only [if_pos hpresents] at htraded
      omega
    · simp only [if_neg hpresents] at htraded
      omega

/-- A quiet move that creates no client at all. -/
theorem Inv.same_clients (h : Inv sha256Hex tokenHash w)
    (hget : w.phases[request]? = some (req, old))
    (htoken : db.enrollments tokenHash = w.db.enrollments tokenHash)
    (hclients : db.clients = w.db.clients)
    (hbody : ∀ body ∈ phase.body, req.accepted = some body)
    (hless : presents sha256Hex tokenHash req = true →
      phase.holding ≤ old.holding ∧ phase.trading ≤ old.trading)
    (hlate : old.late = true → phase.late = true) :
    Inv sha256Hex tokenHash (w.move request req db phase) := by
  have hcreated : (w.move request req db phase).created = w.created :=
    created_move_of_eq hclients
  refine h.quiet hget htoken (by rw [hcreated]) hbody hless ?_
  rw [hcreated]
  exact created_move h hget hlate

/-- A request redeems the token: nobody held it, and nothing was created from it. -/
theorem Inv.redeemed (h : Inv sha256Hex tokenHash w)
    (hget : w.phases[request]? = some (req, old)) {body : EnrollBody}
    (hold : old = .redeem body) (htoken : sha256Hex body.token = tokenHash) {row : EnrollmentRow}
    (hrow : w.db.enrollments tokenHash = some row) (hfree : row.consumedAt = none)
    (hintime : sqlDatetime w.db.now < sqlDatetime row.expiresAt) (hclients : db.clients = w.db.clients)
    (hconsumed : db.enrollments tokenHash =
      some (row.consumed w.db.datetimeNow req.minted.clientId)) :
    Inv sha256Hex tokenHash (w.move request req db (.select body)) := by
  subst hold
  have hmem : (req, EnrollPhase.redeem body) ∈ w.phases := List.mem_of_getElem? hget
  have haccepted : req.accepted = some body := h.accepted _ hmem body rfl
  have hpresents : presents sha256Hex tokenHash req = true :=
    (presents_of_accepted haccepted tokenHash).mpr htoken
  -- the token was free until now, so by the invariant nobody can have held it
  have hnone : held sha256Hex tokenHash w.phases = 0 ∧
      createdFrom sha256Hex tokenHash w.created = [] := by
    by_contra hsome
    have hpos : 0 < held sha256Hex tokenHash w.phases +
        (createdFrom sha256Hex tokenHash w.created).length := by
      by_contra hzero
      exact hsome ⟨by omega, List.eq_nil_of_length_eq_zero (by omega)⟩
    obtain ⟨row', consumedAt, hrow', hat, -⟩ := h.consumed hpos
    rw [hrow] at hrow'
    cases hrow'
    rw [hfree] at hat
    cases hat
  have hcreated : (w.move request req db (.select body)).created = w.created :=
    created_move_of_eq hclients
  have hheld := held_move sha256Hex tokenHash hget db (.select body)
  have htraded :=
    traded_move sha256Hex tokenHash hget db (.select body)
  simp only [if_pos hpresents, EnrollPhase.holding] at hheld
  simp only [if_pos hpresents, EnrollPhase.trading] at htraded
  refine ⟨accepted_move h (fun _ hbody => hbody ▸ haccepted), ?_, ?_, ?_, ?_⟩
  · rw [hcreated, hnone.2, List.length_nil]
    omega
  · intro _
    refine ⟨_, w.db.datetimeNow, hconsumed, rfl, ?_, ?_, ?_⟩
    · rw [sqlDatetime_datetimeNow]
      exact hintime
    · intro p hp hp' hone
      rcases List.mem_or_eq_of_mem_set hp with hp | rfl
      · -- nobody held the token before
        have := holding_le_held hp hp'
        omega
      · rfl
    · rw [hcreated, hnone.2]
      intro c hc
      cases hc
  · rw [hcreated]
    have hbefore := h.traded
    omega
  · rw [hcreated]
    exact created_move h hget (fun hlate => by cases hlate)

/-- The holder of the token creates its client. -/
theorem Inv.created_client (h : Inv sha256Hex tokenHash w)
    (hget : w.phases[request]? = some (req, old)) {body : EnrollBody} {account : AccountRow}
    (hold : old = .create body account) (hpresents : presents sha256Hex tokenHash req = true)
    {row : ClientRow} (hrow : row.id = req.minted.clientId)
    (henrollments : db.enrollments = w.db.enrollments)
    (hclients : db.clients = w.db.clients ++ [row]) :
    Inv sha256Hex tokenHash (w.move request req db (.readBack account)) := by
  subst hold
  have hmem : (req, EnrollPhase.create body account) ∈ w.phases := List.mem_of_getElem? hget
  have hfrom : createdFrom sha256Hex tokenHash (w.move request req db (.readBack account)).created =
      createdFrom sha256Hex tokenHash w.created ++ [⟨request, req, row⟩] := by
    rw [created_move_of_append hclients, createdFrom_append_self hpresents]
  have hheld := held_move sha256Hex tokenHash hget db
    (.readBack account)
  have htraded := traded_move sha256Hex tokenHash hget db
    (.readBack account)
  simp only [if_pos hpresents, EnrollPhase.holding] at hheld
  simp only [if_pos hpresents, EnrollPhase.trading] at htraded
  -- this request held the token: `held` counts it
  obtain ⟨stored, consumedAt, hstored, hat, hintime, hholds, hclient⟩ := h.consumed (by omega)
  refine ⟨accepted_move h (fun _ hbody => by cases hbody), ?_, ?_, ?_, ?_⟩
  · have := h.once
    rw [hfrom, List.length_append, List.length_singleton]
    omega
  · intro _
    refine ⟨stored, consumedAt, (congrFun henrollments tokenHash).trans hstored, hat, hintime, ?_,
      ?_⟩
    · intro p hp hp' hone
      rcases List.mem_or_eq_of_mem_set hp with hp | rfl
      · exact hholds p hp hp' hone
      · cases hone
    · rw [hfrom]
      intro c hc
      rcases List.mem_append.mp hc with hc | hc
      · exact hclient c hc
      · obtain rfl := List.mem_singleton.mp hc
        exact ⟨hrow, hrow ▸ hholds _ hmem hpresents rfl⟩
  · have hbefore := h.traded
    rw [hfrom, List.length_append, List.length_singleton]
    omega
  · exact placed_append h hget hclients

/-- A request that presents another token creates its client. -/
theorem Inv.created_other (h : Inv sha256Hex tokenHash w)
    (hget : w.phases[request]? = some (req, old)) {body : EnrollBody} {account : AccountRow}
    (hold : old = .create body account) (hpresents : presents sha256Hex tokenHash req ≠ true)
    {row : ClientRow} (henrollments : db.enrollments = w.db.enrollments)
    (hclients : db.clients = w.db.clients ++ [row]) :
    Inv sha256Hex tokenHash (w.move request req db (.readBack account)) := by
  subst hold
  refine h.quiet hget (congrFun henrollments tokenHash) ?_ (fun _ hbody => by cases hbody)
    (fun hp => absurd hp hpresents) (placed_append h hget hclients)
  rw [created_move_of_append hclients, createdFrom_append_other hpresents]

/-- A statement keeps the count. -/
theorem Inv.statement (h : Inv sha256Hex tokenHash w)
    (hget : w.phases[request]? = some (req, old)) :
    Inv sha256Hex tokenHash (w.move request req (old.step sha256Hex req w.db).1
      (old.step sha256Hex req w.db).2) := by
  have hmem : (req, old) ∈ w.phases := List.mem_of_getElem? hget
  rcases EnrollPhase.step_cases sha256Hex req old w.db with
    ⟨body, account, row, hold, hrow, hstep⟩ | ⟨body, row, hold, hrow, hfree, hintime, hstep⟩ |
    hquiet
  · rw [hstep]
    -- the client counts for the token its request presented
    by_cases hpresents : presents sha256Hex tokenHash req = true
    · exact h.created_client hget hold hpresents hrow rfl rfl
    · exact h.created_other hget hold hpresents rfl rfl
  · rw [hstep]
    by_cases htoken : sha256Hex body.token = tokenHash
    · subst htoken
      exact h.redeemed hget hold rfl hrow hfree hintime rfl (if_pos rfl)
    · -- another token is redeemed
      subst hold
      have haccepted : req.accepted = some body := h.accepted _ hmem body rfl
      refine h.same_clients hget (if_neg (Ne.symm htoken)) rfl (fun _ hbody => hbody ▸ haccepted)
        ?_ (fun hlate => by cases hlate)
      intro hpresents
      exact absurd ((presents_of_accepted haccepted tokenHash).mp hpresents) htoken
  · refine h.same_clients hget (congrFun hquiet.enrollments tokenHash) hquiet.clients ?_
      (fun _ => ⟨hquiet.holding, hquiet.trading⟩) hquiet.late
    intro body hbody
    rcases hquiet.body body hbody with hold | haccepted
    · exact h.accepted _ hmem body hold
    · exact haccepted

/-- A request that fails ends. -/
theorem Inv.fails (h : Inv sha256Hex tokenHash w)
    (hget : w.phases[request]? = some (req, old)) :
    Inv sha256Hex tokenHash (w.move request req w.db (.ended internalError)) :=
  h.same_clients hget rfl rfl (fun _ hbody => by cases hbody)
    (fun _ => ⟨Nat.zero_le _, Nat.zero_le _⟩) (fun _ => rfl)

end move

/-- A request that starts holds nothing. -/
theorem Inv.start {w : PhaseWorld} (h : Inv sha256Hex tokenHash w) (req : EnrollRequest) :
    Inv sha256Hex tokenHash { w with phases := w.phases ++ [(req, .clock)] } where
  accepted p hp := by
    rcases List.mem_append.mp hp with hp | hp
    · exact h.accepted p hp
    · obtain rfl := List.mem_singleton.mp hp
      intro body hbody
      cases hbody
  once := by
    show held sha256Hex tokenHash (w.phases ++ _) + _ ≤ 1
    rw [held_start]
    exact h.once
  consumed hpos := by
    have hpos : 0 < held sha256Hex tokenHash (w.phases ++ [(req, .clock)]) +
      (createdFrom sha256Hex tokenHash w.created).length := hpos
    rw [held_start] at hpos
    -- the new request is at its clock, and holds nothing
    obtain ⟨row, consumedAt, hrow, hat, hintime, hholds, hfrom⟩ := h.consumed hpos
    refine ⟨row, consumedAt, hrow, hat, hintime, ?_, hfrom⟩
    intro p hp hpresents hone
    rcases List.mem_append.mp hp with hp | hp
    · exact hholds p hp hpresents hone
    · obtain rfl := List.mem_singleton.mp hp
      cases hone
  traded := by
    show PhaseWorld.traded sha256Hex tokenHash (w.phases ++ _) ≤ _
    rw [traded_start]
    exact h.traded
  created c hc := by
    obtain ⟨phase, hphase, hlate⟩ := h.created c hc
    have hlt : c.request < w.phases.length := (List.getElem?_eq_some_iff.mp hphase).1
    exact ⟨phase, (List.getElem?_append_left hlt).trans hphase, hlate⟩

/-- What the operator changes keeps a consumed token as it is. -/
theorem Inv.operator {w : PhaseWorld} (h : Inv sha256Hex tokenHash w) (change : OperatorChange) :
    Inv sha256Hex tokenHash { w with db := change.apply w.db } where
  accepted := h.accepted
  once := h.once
  consumed hpos := by
    obtain ⟨row, consumedAt, hrow, rest⟩ := h.consumed hpos
    exact ⟨row, consumedAt, change.apply_enrollments hrow, rest⟩
  traded := h.traded
  created := h.created

/-- One event keeps the count. -/
theorem Inv.step {w : PhaseWorld} (h : Inv sha256Hex tokenHash w) (event : EnrollEvent) :
    Inv sha256Hex tokenHash (w.apply sha256Hex event) := by
  refine apply_cases event h h.start h.operator ?_ ?_
  · exact fun _ _ _ hget _ => h.statement hget
  · exact fun _ _ _ hget _ => h.fails hget

/-- The count holds after every run. -/
theorem Inv.run (db : IdentityDb) (events : List EnrollEvent) :
    Inv sha256Hex tokenHash (PhaseWorld.run sha256Hex db events) :=
  Run.invariant_of_step (new_inv db) (fun _ event h => h.step event) events

/-! ## Requests that are over -/

/-- A client recorded between two stores bears the request that created it. -/
theorem mem_between {request : Nat} {req : EnrollRequest} {before after : IdentityDb}
    {c : CreatedClient} (h : c ∈ CreatedClient.between request req before after) :
    c.request = request ∧ c.req = req := by
  obtain ⟨row, -, rfl⟩ := List.mem_map.mp h
  exact ⟨rfl, rfl⟩

/-- A request ended with this answer, and created no client. -/
structure Stopped (request : Nat) (req : EnrollRequest) (answer : EnrollAnswer)
    (w : PhaseWorld) : Prop where
  ended : w.phases[request]? = some (req, .ended answer)
  created : ∀ c ∈ w.created, c.request ≠ request

/-- The move of another request. -/
theorem Stopped.move {request other : Nat} {req req' : EnrollRequest} {answer : EnrollAnswer}
    {w : PhaseWorld} (h : Stopped request req answer w) (hother : other ≠ request)
    (db : IdentityDb) (phase : EnrollPhase) :
    Stopped request req answer (w.move other req' db phase) where
  ended := (List.getElem?_set_ne hother).trans h.ended
  created c hc := by
    rcases List.mem_append.mp hc with hc | hc
    · exact h.created c hc
    · rw [(mem_between hc).1]
      exact hother

/-- A request that has answered keeps its answer. -/
theorem Stopped.step {request : Nat} {req : EnrollRequest} {answer : EnrollAnswer}
    {w : PhaseWorld} (h : Stopped request req answer w) (event : EnrollEvent) :
    Stopped request req answer (w.apply sha256Hex event) := by
  -- a request that is not at its end is another one
  have hother : ∀ {other : Nat} {req' : EnrollRequest} {phase : EnrollPhase},
      w.phases[other]? = some (req', phase) → (∀ answer, phase ≠ .ended answer) →
      other ≠ request := by
    rintro other req' phase hget hopen rfl
    rw [h.ended] at hget
    cases hget
    exact hopen answer rfl
  refine apply_cases event h ?_ ?_ ?_ ?_
  · intro req'
    have hlt : request < w.phases.length := (List.getElem?_eq_some_iff.mp h.ended).1
    exact ⟨(List.getElem?_append_left hlt).trans h.ended, h.created⟩
  · exact fun change => ⟨h.ended, h.created⟩
  · exact fun other req' phase hget hopen => h.move (hother hget hopen) _ _
  · exact fun other req' phase hget hopen => h.move (hother hget hopen) _ _

/-- A request that ended stays so, whatever comes after. -/
theorem Stopped.run {request : Nat} {req : EnrollRequest} {answer : EnrollAnswer}
    {w : PhaseWorld} (h : Stopped request req answer w) (events : List EnrollEvent) :
    Stopped request req answer (Run.runAll (apply sha256Hex) w events) :=
  Run.invariant_of_step h (fun _ event h => h.step event) events

/-- A statement that ends a request before its insert. -/
theorem Inv.stopped {w : PhaseWorld} (h : Inv sha256Hex tokenHash w) {request : Nat}
    {req : EnrollRequest} {phase : EnrollPhase} (hget : w.phases[request]? = some (req, phase))
    (hnotLate : phase.late = false) {answer : EnrollAnswer}
    (hstep : phase.step sha256Hex req w.db = (w.db, .ended answer)) :
    Stopped request req answer (w.apply sha256Hex (.statement request)) := by
  have hopen : ∀ answer, phase ≠ .ended answer := by
    rintro answer rfl
    cases hnotLate
  rw [apply_statement hget hopen, hstep]
  have hcreated : (w.move request req w.db (.ended answer)).created = w.created :=
    created_move_of_eq rfl
  refine ⟨List.getElem?_set_self (List.getElem?_eq_some_iff.mp hget).1, ?_⟩
  rw [hcreated]
  -- a request that has created a client is in a late phase
  rintro c hc rfl
  obtain ⟨phase', hphase', hlate⟩ := h.created c hc
  rw [hget] at hphase'
  cases hphase'
  rw [hnotLate] at hlate
  cases hlate

/-- The token is consumed, and this request neither holds nor trades it. -/
structure Shut (sha256Hex : String → String) (tokenHash : String) (request : Nat)
    (w : PhaseWorld) : Prop where
  consumed : w.db.Consumed tokenHash
  phase : ∀ req phase, w.phases[request]? = some (req, phase) →
    presents sha256Hex tokenHash req = true → phase.holding = 0 ∧ phase.trading = 0
  created : ∀ c ∈ createdFrom sha256Hex tokenHash w.created, c.request ≠ request

/-- The clients created from a token are those whose request presented it. -/
theorem mem_createdFrom {created : List CreatedClient} {c : CreatedClient} :
    c ∈ createdFrom sha256Hex tokenHash created ↔
      c ∈ created ∧ presents sha256Hex tokenHash c.req = true :=
  List.mem_filter

/-- A move that does not let the request at hand hold or trade the token. -/
theorem Shut.move {request other : Nat} {req : EnrollRequest} {w : PhaseWorld}
    {db : IdentityDb} {phase : EnrollPhase} (h : Shut sha256Hex tokenHash request w)
    (hconsumed : db.Consumed tokenHash)
    (hsame : other = request → presents sha256Hex tokenHash req = true →
      phase.holding = 0 ∧ phase.trading = 0 ∧ db.clients = w.db.clients) :
    Shut sha256Hex tokenHash request (w.move other req db phase) where
  consumed := hconsumed
  phase req' phase' hget hpresents := by
    have hget : (w.phases.set other (req, phase))[request]? = some (req', phase') := hget
    -- only its own moves change what a request holds
    by_cases heq : other = request
    · have hlt : other < w.phases.length := by
        have := (List.getElem?_eq_some_iff.mp hget).1
        rw [List.length_set] at this
        exact heq ▸ this
      rw [heq, List.getElem?_set_self (heq ▸ hlt)] at hget
      cases hget
      exact ⟨(hsame heq hpresents).1, (hsame heq hpresents).2.1⟩
    · rw [List.getElem?_set_ne heq] at hget
      exact h.phase req' phase' hget hpresents
  created c hc := by
    obtain ⟨hc, hpresents⟩ := mem_createdFrom.mp hc
    rcases List.mem_append.mp hc with hc | hc
    · exact h.created c (mem_createdFrom.mpr ⟨hc, hpresents⟩)
    · rw [(mem_between hc).1]
      intro heq
      have hpresents' : presents sha256Hex tokenHash req = true := (mem_between hc).2 ▸ hpresents
      rw [CreatedClient.between_of_eq _ _ (hsame heq hpresents').2.2] at hc
      cases hc

/-- A consumed token stays consumed, and lets nobody in. -/
theorem Shut.statement {request other : Nat} {req : EnrollRequest} {phase : EnrollPhase}
    {w : PhaseWorld} (h : Shut sha256Hex tokenHash request w) (hinv : Inv sha256Hex tokenHash w)
    (hget : w.phases[other]? = some (req, phase)) :
    Shut sha256Hex tokenHash request (w.move other req (phase.step sha256Hex req w.db).1
      (phase.step sha256Hex req w.db).2) := by
  obtain ⟨stored, hstored, hat⟩ := h.consumed
  rcases EnrollPhase.step_cases sha256Hex req phase w.db with
    ⟨body, account, row, rfl, hrow, hstep⟩ | ⟨body, row, rfl, hrow, hfree, hintime, hstep⟩ | hquiet
  · -- a request that creates held the token
    rw [hstep]
    refine h.move ⟨stored, hstored, hat⟩ fun heq hpresents => ?_
    subst heq
    have := (h.phase req _ hget hpresents).1
    cases this
  · -- another token is redeemed
    have hne : sha256Hex body.token ≠ tokenHash := by
      rintro rfl
      rw [hstored] at hrow
      cases hrow
      exact hat hfree
    rw [hstep]
    refine h.move ⟨stored, (if_neg (Ne.symm hne)).trans hstored, hat⟩ fun heq hpresents => ?_
    have haccepted : req.accepted = some body :=
      hinv.accepted _ (List.mem_of_getElem? hget) body rfl
    exact absurd ((presents_of_accepted haccepted tokenHash).mp hpresents) hne
  · refine h.move ⟨stored, (congrFun hquiet.enrollments tokenHash).trans hstored, hat⟩
      fun heq hpresents => ?_
    subst heq
    obtain ⟨hholding, htrading⟩ := h.phase req phase hget hpresents
    exact ⟨Nat.le_zero.mp (hholding ▸ hquiet.holding), Nat.le_zero.mp (htrading ▸ hquiet.trading),
      hquiet.clients⟩

/-- A request that is over creates nothing more. -/
theorem Shut.step {request : Nat} {w : PhaseWorld} (h : Shut sha256Hex tokenHash request w)
    (hinv : Inv sha256Hex tokenHash w) (event : EnrollEvent) :
    Shut sha256Hex tokenHash request (w.apply sha256Hex event) := by
  obtain ⟨stored, hstored, hat⟩ := h.consumed
  refine apply_cases event h ?_ ?_ ?_ ?_
  · intro req
    refine ⟨h.consumed, ?_, h.created⟩
    intro req' phase' hget hpresents
    have hget : (w.phases ++ [(req, EnrollPhase.clock)])[request]? = some (req', phase') := hget
    -- the request at hand may be the one that starts
    by_cases hlt : request < w.phases.length
    · rw [List.getElem?_append_left hlt] at hget
      exact h.phase req' phase' hget hpresents
    · rw [List.getElem?_append_right (Nat.le_of_not_lt hlt)] at hget
      cases List.mem_singleton.mp (List.mem_of_getElem? hget)
      exact ⟨rfl, rfl⟩
  · exact fun change => ⟨⟨stored, change.apply_enrollments hstored, hat⟩, h.phase, h.created⟩
  · exact fun other req phase hget _ => h.statement hinv hget
  · exact fun other req phase _ _ => h.move h.consumed fun _ _ => ⟨rfl, rfl, rfl⟩

/-- Once a token is consumed, a request that has not redeemed it never will. -/
theorem Shut.run {request : Nat} {w : PhaseWorld} (h : Shut sha256Hex tokenHash request w)
    (hinv : Inv sha256Hex tokenHash w) (events : List EnrollEvent) :
    Shut sha256Hex tokenHash request (Run.runAll (apply sha256Hex) w events) :=
  (Run.invariant_of_step (I := fun w => Shut sha256Hex tokenHash request w ∧
      Inv sha256Hex tokenHash w) ⟨h, hinv⟩
    (fun _ event h => ⟨h.1.step h.2 event, h.2.step event⟩) events).1

/-- A run goes on from where its first part ended. -/
theorem run_append (db : IdentityDb) (before after : List EnrollEvent) :
    PhaseWorld.run sha256Hex db (before ++ after) =
      Run.runAll (apply sha256Hex) (PhaseWorld.run sha256Hex db before) after :=
  Run.runAll_append (apply sha256Hex) ⟨db, [], []⟩ before after

/-- A request that has not redeemed its token when another consumed it is shut out. -/
theorem Inv.shut {w : PhaseWorld} (h : Inv sha256Hex tokenHash w)
    (hconsumed : w.db.Consumed tokenHash) {request : Nat}
    (hearly : ∀ p, w.phases[request]? = some p → p.2.early = true) :
    Shut sha256Hex tokenHash request w where
  consumed := hconsumed
  -- a request in an early phase neither holds the token nor trades it
  phase req phase hget _ := by
    obtain ⟨hholding, htrading, -⟩ := EnrollPhase.of_early (hearly (req, phase) hget)
    exact ⟨hholding, htrading⟩
  created c hc := by
    rintro rfl
    obtain ⟨phase, hget, hlate⟩ := h.created c (mem_createdFrom.mp hc).1
    obtain ⟨-, -, hnotLate⟩ := EnrollPhase.of_early (hearly (c.req, phase) hget)
    rw [hnotLate] at hlate
    cases hlate

end PhaseWorld

/-! ## The clients of the store -/

/-- An operator's change keeps the clients' ids. -/
theorem OperatorChange.apply_clients (change : OperatorChange) (db : IdentityDb) :
    (change.apply db).clients.map (·.id) = db.clients.map (·.id) := by
  cases change with
  | revoke clientId =>
    show (db.clients.map _).map _ = _
    rw [List.map_map]
    refine List.map_congr_left fun row _ => ?_
    dsimp only [Function.comp_apply]
    split <;> rfl
  -- a token is stored, or its hash was there
  | token tokenHash accountId expiresAt note =>
    unfold apply
    dsimp only
    split <;> rfl
  | _ => rfl

namespace PhaseWorld

variable {sha256Hex : String → String}

/-- The clients of the store are those it had, and those the requests created. -/
def Stored (db : IdentityDb) (w : PhaseWorld) : Prop :=
  w.db.clients.map (·.id) = db.clients.map (·.id) ++ w.created.map (·.row.id)

/-- A move that appends the rows it created keeps the record of the clients complete. -/
theorem Stored.move {db after : IdentityDb} {w : PhaseWorld} (h : Stored db w)
    {rows : List ClientRow} (hclients : after.clients = w.db.clients ++ rows) (request : Nat)
    (req : EnrollRequest) (phase : EnrollPhase) :
    Stored db (w.move request req after phase) := by
  show after.clients.map _ = _ ++ (w.created ++ CreatedClient.between request req w.db after).map _
  rw [CreatedClient.between, hclients, List.drop_left, List.map_append, List.map_append,
    List.map_map, ← List.append_assoc, ← h]
  rfl

/-- Every step keeps it complete. -/
theorem Stored.step {db : IdentityDb} {w : PhaseWorld} (h : Stored db w) (event : EnrollEvent) :
    Stored db (w.apply sha256Hex event) := by
  refine apply_cases event h (fun req => h) (fun change => (change.apply_clients w.db).trans h) ?_ ?_
  · intro request req phase hget hopen
    rcases EnrollPhase.step_cases sha256Hex req phase w.db with
      ⟨body, account, row, -, -, hstep⟩ | ⟨body, row, -, -, -, -, hstep⟩ | hquiet
    · exact h.move (by rw [hstep]) request req _
    · exact h.move (by rw [hstep, List.append_nil]) request req _
    · exact h.move (by rw [hquiet.clients, List.append_nil]) request req _
  · exact fun request req phase hget hopen => h.move (List.append_nil _).symm request req _

/-- And so does a whole run. -/
theorem Stored.run (db : IdentityDb) (events : List EnrollEvent) :
    Stored db (PhaseWorld.run sha256Hex db events) :=
  Run.invariant_of_step (show Stored db ⟨db, [], []⟩ from (List.append_nil _).symm)
    (fun _ event h => h.step event) events

end PhaseWorld

/-! ## Single use -/

/-- The request was answered with a client key. -/
def enrolled : Script IdentityDb EnrollAnswer → Bool
  | .done (.enrolled _) => true
  | _ => false

/-- A phase whose script has answered with a key has traded one token. -/
theorem EnrollPhase.enrolled_script {sha256Hex : String → String} {req : EnrollRequest}
    (phase : EnrollPhase) (h : enrolled (phase.script sha256Hex req) = true) :
    phase.trading = 1 := by
  cases phase with
  | ended answer =>
    cases answer with
    | enrolled response => rfl
    | _ => cases h
  | _ => cases h

/-- What holds of a token, whatever requests present it, in whatever order their statements
    are executed and fail, and whatever the operator does. -/
structure SingleUse (sha256Hex : String → String) (db : IdentityDb) (tokenHash : String) :
    Prop where
  /-- The requests are at the phases of their scripts. -/
  phases : ∀ events, EnrollWorld.run sha256Hex db events =
    (PhaseWorld.run sha256Hex db events).world sha256Hex
  /-- The clients of the store beyond those it had are those seen created. -/
  stored : ∀ events, (EnrollWorld.run sha256Hex db events).db.clients.map (·.id) =
    db.clients.map (·.id) ++ (EnrollWorld.run sha256Hex db events).created.map (·.row.id)
  /-- One client at most is created from the token, and one request at most answered with
      its key. -/
  once : ∀ events, (PhaseWorld.createdFrom sha256Hex tokenHash
      (EnrollWorld.run sha256Hex db events).created).length ≤ 1 ∧
    ((EnrollWorld.run sha256Hex db events).requests.filter fun r =>
      presents sha256Hex tokenHash r.1 && enrolled r.2).length ≤ 1
  /-- The client is the one its token was consumed by, before it expired. -/
  recorded : ∀ events, ∀ c ∈ PhaseWorld.createdFrom sha256Hex tokenHash
      (EnrollWorld.run sha256Hex db events).created,
    c.row.id = c.req.minted.clientId ∧ ∃ row consumedAt,
      (EnrollWorld.run sha256Hex db events).db.enrollments tokenHash = some row ∧
      row.consumedByClient = some c.row.id ∧ row.consumedAt = some consumedAt ∧
      sqlDatetime consumedAt < sqlDatetime row.expiresAt
  /-- A redemption of a token that is unknown, consumed or expired by then creates nothing. -/
  invalid : ∀ before after request req body,
    (PhaseWorld.run sha256Hex db before).phases[request]? = some (req, .redeem body) →
    ¬ (PhaseWorld.run sha256Hex db before).db.Redeemable (sha256Hex body.token) →
    PhaseWorld.Stopped request req EnrollPhase.notValid
      (PhaseWorld.run sha256Hex db (before ++ .statement request :: after))
  /-- An account that is suspended when it is checked gets no client. -/
  suspended : ∀ before after request req body accountId account,
    (PhaseWorld.run sha256Hex db before).phases[request]? = some (req, .check body accountId) →
    (PhaseWorld.run sha256Hex db before).db.accounts accountId = some account →
    account.suspendedAt ≠ none →
    PhaseWorld.Stopped request req EnrollPhase.accountSuspended
      (PhaseWorld.run sha256Hex db (before ++ .statement request :: after))
  /-- Once the token is consumed, no request that comes later succeeds. -/
  late : ∀ before after request,
    (PhaseWorld.run sha256Hex db before).db.Consumed tokenHash →
    (∀ p, (PhaseWorld.run sha256Hex db before).phases[request]? = some p → p.2.early = true) →
    (∀ r, (EnrollWorld.run sha256Hex db (before ++ after)).requests[request]? = some r →
      presents sha256Hex tokenHash r.1 = true → enrolled r.2 = false) ∧
    ∀ c ∈ PhaseWorld.createdFrom sha256Hex tokenHash
      (EnrollWorld.run sha256Hex db (before ++ after)).created, c.request ≠ request

/-- The requests answered with a key are counted among those that traded the token. -/
theorem PhaseWorld.enrolled_le_traded (sha256Hex : String → String) (tokenHash : String)
    (phases : List (EnrollRequest × EnrollPhase)) :
    ((phases.map fun p => (p.1, p.2.script sha256Hex p.1)).filter fun r =>
      presents sha256Hex tokenHash r.1 && enrolled r.2).length ≤
      traded sha256Hex tokenHash phases := by
  induction phases with
  | nil => exact Nat.le_refl 0
  | cons p phases ih =>
    have hcons : traded sha256Hex tokenHash (p :: phases) =
        (if presents sha256Hex tokenHash p.1 then p.2.trading else 0) +
          traded sha256Hex tokenHash phases := by
      simp only [traded, List.map_cons, List.sum_cons]
    rw [List.map_cons, List.filter_cons, hcons]
    -- a request is counted when it presented the token and was answered with a key
    split
    · rename_i hcounted
      obtain ⟨hpresents, henrolled⟩ := Bool.and_eq_true .. ▸ hcounted
      rw [if_pos hpresents, EnrollPhase.enrolled_script p.2 henrolled, List.length_cons]
      omega
    · omega

/-- An enrollment token is traded for one client at most. -/
theorem enroll_single_use (sha256Hex : String → String) (db : IdentityDb) (tokenHash : String) :
    SingleUse sha256Hex db tokenHash := by
  have hworld : ∀ events, EnrollWorld.run sha256Hex db events =
      (PhaseWorld.run sha256Hex db events).world sha256Hex := PhaseWorld.world_run db
  have hinv : ∀ events, PhaseWorld.Inv sha256Hex tokenHash (PhaseWorld.run sha256Hex db events) :=
    PhaseWorld.Inv.run db
  -- each part is read off the invariant of the phases
  refine ⟨hworld, ?_, ?_, ?_, ?_, ?_, ?_⟩
  · intro events
    rw [hworld]
    exact PhaseWorld.Stored.run db events
  · intro events
    -- what is held and what is created adds up to one
    have honce := (hinv events).once
    have htraded := (hinv events).traded
    have hanswered := PhaseWorld.enrolled_le_traded sha256Hex tokenHash
      (PhaseWorld.run sha256Hex db events).phases
    rw [hworld]
    refine ⟨?_, ?_⟩
    · show (PhaseWorld.createdFrom _ _ (PhaseWorld.run sha256Hex db events).created).length ≤ 1
      omega
    · exact hanswered.trans (by omega)
  · intro events
    rw [hworld]
    intro c hc
    have hpos := List.length_pos_of_mem hc
    obtain ⟨row, consumedAt, hrow, hat, hintime, -, hfrom⟩ :=
      (hinv events).consumed (Nat.add_pos_right _ hpos)
    exact ⟨(hfrom c hc).1, row, consumedAt, hrow, (hfrom c hc).2, hat, hintime⟩
  · intro before after request req body hget hinvalid
    rw [PhaseWorld.run_append, Run.runAll_cons]
    refine ((hinv before).stopped hget rfl ?_).run after
    -- the statement flips no row where the token is not valid
    rcases IdentityDb.consume_cases _ (sha256Hex body.token) req.minted.clientId with
      ⟨row, hrow, hfree, hintime, -⟩ | ⟨-, hconsume⟩
    · exact absurd ⟨row, hrow, hfree, hintime⟩ hinvalid
    · dsimp only [EnrollPhase.step]
      rw [hconsume]
      rfl
  · intro before after request req body accountId account hget haccount hsuspended
    rw [PhaseWorld.run_append, Run.runAll_cons]
    refine ((hinv before).stopped hget rfl ?_).run after
    dsimp only [EnrollPhase.step]
    rw [haccount]
    dsimp only
    rw [if_pos (Option.isSome_iff_ne_none.mpr hsuspended)]
  · intro before after request hconsumed hearly
    have hshut := ((hinv before).shut hconsumed hearly).run (hinv before) after
    rw [← PhaseWorld.run_append] at hshut
    rw [hworld]
    refine ⟨?_, hshut.created⟩
    intro r hget hpresents
    rw [PhaseWorld.requests_getElem?] at hget
    obtain ⟨p, hp, rfl⟩ := Option.map_eq_some_iff.mp hget
    -- a late answer with a key would be a second trade
    by_contra henrolled
    have htrading := (hshut.phase p.1 p.2 hp hpresents).2
    rw [EnrollPhase.enrolled_script p.2 (Bool.not_eq_false _ ▸ henrolled)] at htrading
    cases htrading

end ControlPlane
