import ControlPlane.Spec.PlaneLedger
import ControlPlane.Spec.Revocation

/-!
# Whose requests are on the ledger

A usage row names the client that pays, the request it pays for and the model. The three come
from one place, the gate that let the request in, but the row is written much later: after a
stream was relayed, by a job that runs on its own, or by a session whose object has lost
everything but what it stored. Between the two a client may be revoked, its account
suspended, any row rewritten.

`Books` says what ids may stand in the ledger. It is kept by every statement of the plane if
it admits what the gates admit and survives the other calls, so what is put in there is all
there is to show.

## Key results

- `chatGates_under` / `nonChatGate_under`: whom a gate lets in
- `Books.call_under`: every call keeps the books
- `rows_attributed`: each row is a request of its client, with the client's own key
-/

namespace ControlPlane

open Script

section books

variable (digests : Media.Digests) (deployment : Deployment) (Calls : PlaneCall → Prop)

/-! ## Whose request it is -/

/-- A request for a model that the credential of the client opened. -/
inductive Asked (client : ClientRow) (db : AccessDb) : String → String → Prop
  | chat {http : ChatHttp} {world : ChatWorld} {model : PricedEntry}
      (hcall : Calls (.chat http world)) (hmodel : model ∈ deployment.catalog)
      (hmodality : model.modality = .chat)
      (hkey : PresentsKey digests http.authorization client) :
      Asked client db http.requestId model.id
  | nonChat {door : NonChatDoor} {request : NonChatRequest} {world : NonChatWorld}
      {createdAt : Int} {model : PricedEntry}
      (hcall : Calls (.nonChat door request world createdAt))
      (hmodel : model ∈ deployment.catalog) (hmodality : model.modality = door.modality)
      (hkey : PresentsKey digests request.authorization client) :
      Asked client db request.requestId model.id
  | speech {upgrade : SttUpgrade} {opening : SttOpening} {auth : SttUpgradeAuth}
      (hcall : Calls (.speech upgrade opening))
      (hauth : authFromSttUpgrade upgrade.authorization upgrade.protocol = some auth)
      (hkey : AuthorizedBy digests client db auth) :
      Asked client db upgrade.requestId FLUX_STT_MODEL

/-- The ids of a request that a client made which was live after `s`. -/
def Owed (s : AccessDb) (ids : RowIds) (t : AccessDb) : Prop :=
  ∃ client, LiveClient (TableCalls Calls) s client t ∧ client.id = ids.clientId ∧
    client.accountId = ids.accountId ∧
    Asked digests deployment Calls client t ids.requestId ids.modelId

/-! ## What may stand in the ledger -/

/-- Which rows may be in the ledger: the `old` ones, and those whose ids are `Good`, with or
    without a charge. `Start` is what is so of the tables throughout. -/
structure Books where
  Start : AccessDb → Prop
  Old : UsageEventRow → Prop
  Good : AccessDb → RowIds → Bool → Prop
  start_later : ∀ {s t}, Start s → Later (TableCalls Calls) s t → Start t
  good_later : ∀ {s t ids metered}, Good s ids metered → Later (TableCalls Calls) s t →
    Good t ids metered
  owed : ∀ {t ids metered}, Good t ids metered → ∃ s, Owed digests deployment Calls s ids t
  /-- What the gates admit may be written. -/
  admits : ∀ {s t ids}, Start s → Owed digests deployment Calls s ids t →
    ∀ metered, Good t ids metered
  /-- A session is charged to a client that is live when it ends. -/
  charges : ∀ {t ids client}, Sound digests (TableCalls Calls) t → Start t → Good t ids false →
    client ∈ t.clients → client.id = ids.clientId → client.revokedAt = none → Good t ids true

variable {digests deployment Calls}

/-- An authorization stays one in every later store. -/
theorem AuthorizedBy.later {client : ClientRow} {s t : AccessDb} {auth : SttUpgradeAuth}
    (h : AuthorizedBy digests client s auth) (hst : Later (TableCalls Calls) s t) :
    AuthorizedBy digests client t auth := by
  cases auth with
  | clientKey bearer => exact h
  | sttTicket ticket =>
    obtain ⟨row, hrow, hconsumed, hclient, haccount⟩ := h
    -- a ticket row is never deleted and a consumed one stays consumed
    obtain ⟨row', hrow', hkeep⟩ := hst.ticket hrow
    obtain ⟨hclientId, haccountId, -⟩ := hkeep.fields
    exact ⟨row', hrow', hkeep.stays hconsumed ▸ hconsumed, hclientId.trans hclient,
      haccountId.trans haccount⟩

/-- So does what a client asked for. -/
theorem Asked.later {client : ClientRow} {s t : AccessDb} {requestId modelId : String}
    (h : Asked digests deployment Calls client s requestId modelId)
    (hst : Later (TableCalls Calls) s t) :
    Asked digests deployment Calls client t requestId modelId := by
  cases h with
  | chat hcall hmodel hmodality hkey => exact .chat hcall hmodel hmodality hkey
  | nonChat hcall hmodel hmodality hkey => exact .nonChat hcall hmodel hmodality hkey
  | speech hcall hauth hkey => exact .speech hcall hauth (hkey.later hst)

/-- An authorization holds for the row the client is kept as. -/
theorem AuthorizedBy.of_keeps {a b : ClientRow} {db : AccessDb} {auth : SttUpgradeAuth}
    (h : AuthorizedBy digests a db auth) (hkeep : KeepsClient (TableCalls Calls) a b) :
    AuthorizedBy digests b db auth := by
  cases auth with
  | clientKey bearer => exact PresentsKey.of_keeps h hkeep
  | sttTicket ticket =>
    obtain ⟨row, hrow, hconsumed, hclient, haccount⟩ := h
    obtain ⟨hid, haccountId, -⟩ := hkeep.fields
    exact ⟨row, hrow, hconsumed, hclient.trans hid.symm, haccount.trans haccountId.symm⟩

/-- So does what the client asked for. -/
theorem Asked.of_keeps {a b : ClientRow} {db : AccessDb} {requestId modelId : String}
    (h : Asked digests deployment Calls a db requestId modelId)
    (hkeep : KeepsClient (TableCalls Calls) a b) :
    Asked digests deployment Calls b db requestId modelId := by
  cases h with
  | chat hcall hmodel hmodality hkey => exact .chat hcall hmodel hmodality (hkey.of_keeps hkeep)
  | nonChat hcall hmodel hmodality hkey =>
    exact .nonChat hcall hmodel hmodality (hkey.of_keeps hkeep)
  | speech hcall hauth hkey => exact .speech hcall hauth (hkey.of_keeps hkeep)

/-- What is owed for a row stays owed in every later store. -/
theorem Owed.later {s t u : AccessDb} {ids : RowIds} (h : Owed digests deployment Calls s ids t)
    (htu : Later (TableCalls Calls) t u) : Owed digests deployment Calls s ids u := by
  obtain ⟨client, hlive, hid, haccount, hasked⟩ := h
  exact ⟨client, hlive.later htu, hid, haccount, hasked.later htu⟩

/-- The client that is found under the id is the one that made the request. -/
theorem Owed.found {s t : AccessDb} {ids : RowIds} (h : Owed digests deployment Calls s ids t)
    (ht : Sound digests (TableCalls Calls) t) {client : ClientRow} (hclient : client ∈ t.clients)
    (hid : client.id = ids.clientId) : client.accountId = ids.accountId := by
  obtain ⟨owner, hlive, hownerId, haccount, -⟩ := h
  obtain ⟨row, hrow, hkeep⟩ := hlive.row
  obtain ⟨hrowId, hrowAccount, -, -⟩ := hkeep.fields
  obtain rfl : row = client :=
    ht.distinct.eq_of_id hrow hclient (hrowId.trans (hownerId.trans hid.symm))
  exact hrowAccount.trans haccount

/-! ## Whom the gates let in -/

/-- A caller that asked for a model is who the ids name. -/
theorem LiveCaller.owed {s t : AccessDb} {caller : Caller}
    (h : LiveCaller (TableCalls Calls) s caller t) {requestId modelId : String}
    (hasked : Asked digests deployment Calls caller.client t requestId modelId) :
    Owed digests deployment Calls s ⟨requestId, caller.account.id, caller.client.id, modelId⟩ t :=
  ⟨caller.client, h.toLiveClient, rfl, h.account.symm, hasked⟩

variable (digests deployment Calls) in
/-- What is admitted at a gate is a request of its client. -/
def Admits {α : Type} (ids : α → RowIds) (s : AccessDb) (answer : Except ApiError α)
    (t : AccessDb) : Prop :=
  ∀ admitted, answer = .ok admitted → Owed digests deployment Calls s (ids admitted) t

/-- A refusal admits nobody. -/
theorem under_refused {α : Type} {ids : α → RowIds} {s : AccessDb} (err : ApiError) (t : AccessDb) :
    (Script.done (.error err : Except ApiError α)).Under (access digests (TableCalls Calls))
      (Admits digests deployment Calls ids s) t := by
  refine .done fun _ _ _ admitted h => ?_
  cases h

/-- The rate check leaves a later store. -/
theorem checkInference_under (accountId : String) (limit : Int) (s : AccessDb) :
    (checkInference accountId limit).Under (access digests (TableCalls Calls))
      (fun _ t => Later (TableCalls Calls) s t) s := by
  refine Under.read_bind fun t _ hst => ?_
  exact (onRateBuckets_under _ t).weaken fun _ _ _ htu => Later.trans hst htu

/-- A model the chat gate lets through is a chat model of the catalog. -/
theorem ChatHttp.mem_of_modelGate {req : ValidChatRequest} {plan : Plan} {model : PricedEntry}
    (h : modelGate deployment req plan = .ok model) :
    model ∈ deployment.catalog ∧ model.modality = .chat := by
  unfold modelGate at h
  split at h
  · cases h
  next found hfind =>
    split at h
    · cases h
    next hmodality =>
      -- the other refusals are about other fields
      split at h
      · cases h
      split at h
      · cases h
      split at h
      · cases h
      obtain rfl := Except.ok.inj h
      exact ⟨List.mem_of_find?_eq_some hfind, not_not.mp hmodality⟩

/-- Who passes the gates of the chat door made the request it is admitted for. -/
theorem chatGates_under {http : ChatHttp} {world : ChatWorld} (hcall : Calls (.chat http world))
    (req : ValidChatRequest) {s : AccessDb} (hs : Sound digests (TableCalls Calls) s) :
    (http.gates deployment req digests.sha256).Under (access digests (TableCalls Calls))
      (Admits digests deployment Calls (fun admission => admission.call.ids) s) s := by
  refine Under.bind hs
    ((requireCaller_under http.authorization s).weaken fun answer t ht hanswer => ?_)
  cases answer with
  -- nobody is let in without a key
  | error err => exact under_refused err t
  | ok caller =>
    obtain ⟨hcaller, hkey⟩ := hanswer.ok
    unfold ChatHttp.planGate
    dsimp only
    -- the plan of the caller cannot be read
    split
    · exact under_refused _ t
    refine Under.bind ht ((checkInference_under _ _ t).weaken fun rate u _ htu => ?_)
    -- the rate limit is reached
    split
    · exact under_refused _ u
    -- the model is unknown, or not in the plan
    split
    · exact under_refused _ u
    next model hmodel =>
      obtain ⟨hmem, hmodality⟩ := ChatHttp.mem_of_modelGate hmodel
      refine Under.read_bind fun v _ huv => ?_
      -- the model has no usable price, or the deployment no gateway
      split
      · exact under_refused _ v
      split
      · exact under_refused _ v
      -- the balance and the credential
      refine Under.read_bind fun w _ hvw => ?_
      split
      · exact under_refused _ w
      split
      · exact under_refused _ w
      -- the caller of the first read is still the key's, whatever has happened since
      · refine .done fun x _ hwx admission h => ?_
        obtain rfl := Except.ok.inj h
        have hcaller' := hcaller.later (Later.trans htu (Later.trans huv (Later.trans hvw hwx)))
        exact hcaller'.owed (.chat hcall hmem hmodality hkey)

/-- A model a non-chat gate lets through is a model of its modality. -/
theorem NonChatRequest.mem_of_modelGate {modality : Modality} {plan : Plan} {raw : Json}
    {model : PricedEntry} (h : modelGate deployment modality plan raw = .ok model) :
    model ∈ deployment.catalog ∧ model.modality = modality := by
  unfold modelGate at h
  split at h
  · cases h
  split at h
  · cases h
  next found hfind =>
    split at h
    · cases h
    next hmodality =>
      split at h
      · cases h
      split at h
      · cases h
      obtain rfl := Except.ok.inj h
      exact ⟨List.mem_of_find?_eq_some hfind, not_not.mp hmodality⟩

/-- Who passes the gate of a non-chat door made the request it is admitted for. -/
theorem nonChatGate_under {door : NonChatDoor} {request : NonChatRequest} {world : NonChatWorld}
    {createdAt : Int} (hcall : Calls (.nonChat door request world createdAt)) (raw : Json)
    {s : AccessDb} (hs : Sound digests (TableCalls Calls) s) :
    (request.gate deployment digests.sha256 door.modality raw).Under
      (access digests (TableCalls Calls)) (Admits digests deployment Calls NonChatGateOk.ids s)
      s := by
  refine Under.bind hs
    ((requireCaller_under request.authorization s).weaken fun answer t _ hanswer => ?_)
  cases answer with
  | error err => exact under_refused err t
  | ok caller =>
    obtain ⟨hcaller, hkey⟩ := hanswer.ok
    -- the plan is read once more
    refine Under.read_bind fun u hu htu => ?_
    -- the plan row is missing, or cannot be read
    split
    · exact under_refused _ u
    split
    · exact under_refused _ u
    refine Under.bind hu ((checkInference_under _ _ u).weaken fun rate v _ huv => ?_)
    -- the rate limit, then the model of the body
    split
    · exact under_refused _ v
    split
    · exact under_refused _ v
    next model hmodel =>
      obtain ⟨hmem, hmodality⟩ := NonChatRequest.mem_of_modelGate hmodel
      refine Under.read_bind fun w _ hvw => ?_
      -- the price, then the wiring
      split
      · exact under_refused _ w
      split
      · exact under_refused _ w
      refine Under.read_bind fun x _ hwx => ?_
      -- the balance, then the credential
      split
      · exact under_refused _ x
      split
      · exact under_refused _ x
      · refine .done fun y _ hxy gate h => ?_
        obtain rfl := Except.ok.inj h
        have hcaller' := hcaller.later
          (Later.trans htu (Later.trans huv (Later.trans hvw (Later.trans hwx hxy))))
        exact hcaller'.owed (.nonChat hcall hmem hmodality hkey)

/-! ## The books are kept -/

/-- What a statement that writes the row of an event does to the plane. -/
def RecordsIn (event : UsageEvent) (createdAt : Int) (a b : Plane) : Prop :=
  ∃ ledger, b = { a with tables := { a.tables with ledger := ledger } } ∧
    Records event createdAt a.tables.ledger ledger

/-- Recording a call from the doors records that call and nothing else. -/
theorem recordsIn_onTables (event : UsageEvent) (createdAt : Int) :
    (onTables (onMoney (recordUsage event createdAt))).Steps (RecordsIn event createdAt) := by
  have hmoney : (onMoney (recordUsage event createdAt)).Steps fun a b : AccessDb =>
      ∃ ledger, b = { a with ledger := ledger } ∧ Records event createdAt a.ledger ledger :=
    (recordUsage_rows event createdAt).zoom fun _ ledger h => ⟨ledger, rfl, h⟩
  apply hmoney.zoom
  rintro plane tables ⟨ledger, rfl, hrecords⟩
  exact ⟨ledger, rfl, hrecords⟩

/-- So does recording the end of a session. -/
theorem recordsIn_onStt (event : UsageEvent) (createdAt : Int) :
    (onStt (onLedger (recordUsage event createdAt))).Steps (RecordsIn event createdAt) := by
  have hledger : (onLedger (recordUsage event createdAt)).Steps fun a b : SttDb =>
      ∃ ledger, b = { a with ledger := ledger } ∧ Records event createdAt a.ledger ledger :=
    (recordUsage_rows event createdAt).zoom fun _ ledger h => ⟨ledger, rfl, h⟩
  apply hledger.zoom
  rintro plane db ⟨ledger, rfl, hrecords⟩
  exact ⟨ledger, rfl, hrecords⟩

namespace Books

variable (books : Books digests deployment Calls)

/-- Nothing is in the ledger, or on its way there, that may not be. -/
structure InOrder (plane : Plane) : Prop where
  sound : Sound digests (TableCalls Calls) plane.tables
  start : books.Start plane.tables
  rows : ∀ row ∈ plane.tables.ledger.usageEvents,
    books.Old row ∨ books.Good plane.tables row.ids row.metered
  jobs : ∀ params ∈ plane.longruns, books.Good plane.tables params.ids true
  sessions : ∀ stored ∈ plane.sessions, ∀ nowMs session, stored.readMeta nowMs = some session →
    books.Good plane.tables session.ids false

/-- The books stay in order, and the tables move forward. -/
def discipline : Discipline Plane :=
  ⟨books.InOrder, fun a b => Later (TableCalls Calls) a.tables b.tables, fun _ => .refl _, .trans⟩

variable {books} {plane : Plane}

/-- A write to the tables, which may add rows that are good. -/
theorem InOrder.setTables (h : books.InOrder plane) {db : AccessDb}
    (hallow : (access digests (TableCalls Calls)).Allows plane.tables db)
    (hrows : ∀ row ∈ db.ledger.usageEvents, row ∈ plane.tables.ledger.usageEvents ∨
      books.Good plane.tables row.ids row.metered) :
    books.discipline.Allows plane { plane with tables := db } := by
  obtain ⟨hsound, hlater⟩ := hallow
  refine ⟨⟨hsound, books.start_later h.start hlater, fun row hrow => ?_, fun params hparams => ?_,
    fun stored hstored nowMs session hmeta => ?_⟩, hlater⟩
  -- an old row stays good, and a new one is good already
  · rcases hrows row hrow with hold | hgood
    · exact (h.rows row hold).imp_right fun hgood => books.good_later hgood hlater
    · exact .inr (books.good_later hgood hlater)
  · exact books.good_later (h.jobs params hparams) hlater
  · exact books.good_later (h.sessions stored hstored nowMs session hmeta) hlater

/-- A job of good ids is started. -/
theorem InOrder.startLongRun (h : books.InOrder plane) {params : PlaneLongRunParams} {ids : RowIds}
    (hids : params.ids = ids) (hgood : books.Good plane.tables ids true) :
    books.InOrder { plane with longruns := plane.longruns ++ [params] } :=
  { h with
    jobs := fun job hjob => by
      rcases List.mem_append.mp hjob with hjob | hjob
      · exact h.jobs job hjob
      · rw [List.mem_singleton.mp hjob, hids]
        exact hgood }

/-- A session of good ids stores what it accepted. -/
theorem InOrder.startSession (h : books.InOrder plane) {stored : SttMeta} {ids : RowIds}
    (hids : ∀ nowMs session, stored.readMeta nowMs = some session → session.ids = ids)
    (hgood : books.Good plane.tables ids false) :
    books.InOrder { plane with sessions := plane.sessions ++ [stored] } :=
  { h with
    sessions := fun other hother nowMs session hmeta => by
      rcases List.mem_append.mp hother with hother | hother
      · exact h.sessions other hother nowMs session hmeta
      · rw [List.mem_singleton.mp hother] at hmeta
        rw [hids nowMs session hmeta]
        exact hgood }

variable {α : Type}

/-- What keeps the tables sound and writes no row keeps the books. -/
theorem onTables_under {p : Script AccessDb α} {post : α → AccessDb → Prop}
    (hsteps : p.Steps SameRows)
    (h : p.Under (access digests (TableCalls Calls)) post plane.tables) :
    (onTables p).Under books.discipline (fun a t => post a t.tables) plane :=
  Under.zoom (D := access digests (TableCalls Calls)) (E := books.discipline) (R := SameRows)
    (fun _ ht => InOrder.sound ht) (fun _ _ h => h) (fun _ _ => rfl)
    (fun _ _ ht hallow hrows => InOrder.setTables ht hallow fun _ hrow => .inl (hrows ▸ hrow))
    hsteps h

/-- A row whose ids are good is written. -/
theorem recordsIn_under {p : Script Plane α} {event : UsageEvent} {createdAt : Int}
    (hsteps : p.Steps (RecordsIn event createdAt))
    (hgood : books.Good plane.tables event.ids event.metered) :
    p.Under books.discipline (fun _ t => Later (TableCalls Calls) plane.tables t.tables) plane := by
  refine Under.of_steps_later (hsteps.mono fun a b hrecords ha hle => ?_)
  obtain ⟨ledger, rfl, hrecords⟩ := hrecords
  refine ha.setTables ((Writes.setLedger hrecords.toLedgerStep).allows ha.sound) fun row hrow => ?_
  refine (hrecords.rows row hrow).imp_right fun hrow => ?_
  rw [hrow]
  exact books.good_later hgood hle

/-- Rows recorded for a request that is good for them keep the books. -/
theorem recordEach_under {ids : RowIds} {createdAt : Int} {events : List UsageEvent}
    (hids : ∀ event ∈ events, event.ids = ids) (h : books.InOrder plane)
    (hgood : ∀ metered, books.Good plane.tables ids metered) :
    (onTables (onMoney (recordEach createdAt events))).Under books.discipline
      (fun _ _ => True) plane := by
  -- one event after the other, the books kept in between
  induction events generalizing plane with
  | nil => exact .done fun _ _ _ => trivial
  | cons event events ih =>
    have hevent := hids event List.mem_cons_self
    rw [recordEach, onMoney_bind, onTables, Script.zoom_bind]
    refine Under.bind h ((recordsIn_under (recordsIn_onTables event createdAt)
      (hevent ▸ hgood event.metered)).weaken fun _ t ht hle => ?_)
    exact ih (fun event hmem => hids event (List.mem_cons_of_mem _ hmem)) ht
      fun metered => books.good_later (hgood metered) hle

/-- A chat request. -/
theorem chat_under {http : ChatHttp} {world : ChatWorld} (hcall : Calls (.chat http world))
    (h : books.InOrder plane) :
    (onTables (http.handle world digests.sha256 deployment)).Under books.discipline
      (fun _ _ => True) plane := by
  unfold ChatHttp.handle
  -- a body that cannot be read
  split
  · exact .done fun _ _ _ => trivial
  -- a request that is refused
  split
  · exact .done fun _ _ _ => trivial
  next req _ =>
    rw [bind_eq_bind, onTables, Script.zoom_bind]
    refine Under.bind h ((onTables_under (sameRows_chatGates http deployment req _)
      (chatGates_under hcall req h.sound)).weaken fun answer t ht hadmits => ?_)
    cases answer with
    | error err => exact .done fun _ _ _ => trivial
    | ok admission =>
      have hgood := books.admits h.start (hadmits admission rfl)
      dsimp only
      unfold ChatHttp.spend
      split
      · exact .done fun _ _ _ => trivial
      -- the period is read, then the rows of the call are written
      rw [onMoney_bind, Script.zoom_bind]
      refine Under.read_bind fun u hu htu => ?_
      rw [onMoney_bind, Script.zoom_bind]
      refine Under.bind hu ((recordEach_under (admission.call.ids_serve _ _ _) hu
        fun metered => books.good_later (hgood metered) htu).weaken fun _ _ _ _ => ?_)
      exact .done fun _ _ _ => trivial

/-- What a non-chat handler does. -/
theorem perform_under {gate : NonChatGateOk} {createdAt : Int} {effects : List NonChatEffect}
    (howns : ∀ effect ∈ effects, gate.Owns effect) (h : books.InOrder plane)
    (hgood : ∀ metered, books.Good plane.tables gate.ids metered) :
    (perform createdAt effects).Under books.discipline (fun _ _ => True) plane := by
  induction effects generalizing plane with
  | nil => exact .done fun _ _ _ => trivial
  | cons effect effects ih =>
    have hown := howns effect List.mem_cons_self
    have hrest := fun effect hmem => howns effect (List.mem_cons_of_mem _ hmem)
    cases effect with
    -- a row is written for the request's own ids
    | record event =>
      have hevent : event.ids = gate.ids := hown
      refine Under.bind h ((recordsIn_under (recordsIn_onTables event createdAt)
        (hevent ▸ hgood event.metered)).weaken fun _ t ht hle => ?_)
      exact ih hrest ht fun metered => books.good_later (hgood metered) hle
    -- a job is handed the same ids, to write its row later
    | startLongRun params =>
      refine Under.exec_bind fun t ht hle => ?_
      have hgood' := fun metered => books.good_later (hgood metered) hle
      have hnext := InOrder.startLongRun ht (show params.ids = gate.ids from hown) (hgood' true)
      exact ⟨⟨hnext, .refl _⟩, ih hrest hnext hgood'⟩
    -- the other effects leave the plane alone
    | _ => exact ih hrest h hgood

/-- A non-chat request. -/
theorem nonChat_under {door : NonChatDoor} {request : NonChatRequest} {world : NonChatWorld}
    {createdAt : Int} (hcall : Calls (.nonChat door request world createdAt))
    (h : books.InOrder plane) :
    (request.handle digests.sha256 deployment door world createdAt).Under books.discipline
      (fun _ _ => True) plane := by
  unfold NonChatRequest.handle
  split
  · exact .done fun _ _ _ => trivial
  next raw _ =>
    refine Under.bind h ((onTables_under (sameRows_nonChatGate request deployment _ _ raw)
      (nonChatGate_under hcall raw h.sound)).weaken fun answer t ht hadmits => ?_)
    cases answer with
    | error err => exact .done fun _ _ _ => trivial
    | ok gate =>
      have hgood := books.admits h.start (hadmits gate rfl)
      -- the period is read, then the effects happen one after the other
      refine Under.read_bind fun u hu htu => ?_
      refine Under.bind hu ((perform_under (NonChatGateOk.owns_handle door) hu
        fun metered => books.good_later (hgood metered) htu).weaken fun _ _ _ _ => ?_)
      exact .done fun _ _ _ => trivial

/-- A session keeps the ids of the handoff it accepts. -/
theorem ids_of_readMeta {claims : HandoffClaims} {opening : SttOpening} {nowMs : Int}
    {session : SessionMeta} (h : (claims.meta opening).readMeta nowMs = some session) :
    session.ids = ⟨claims.requestId, claims.accountId, claims.clientId, claims.modelId⟩ := by
  -- a value read from the stored text is that text, since empty ones are dropped
  have hpresent {text value : String} (h : presentText (some text) = some value) : value = text :=
    (Option.some.inj (Option.filter_eq_some_iff.mp h).1).symm
  obtain ⟨accountId, haccount, h⟩ := Option.bind_eq_some_iff.mp h
  obtain ⟨clientId, hclient, h⟩ := Option.bind_eq_some_iff.mp h
  obtain ⟨planId, -, h⟩ := Option.bind_eq_some_iff.mp h
  obtain ⟨requestId, hrequest, h⟩ := Option.bind_eq_some_iff.mp h
  rw [← Option.some.inj h, ← hpresent haccount, ← hpresent hclient, ← hpresent hrequest]
  rfl

/-- An upgrade, and the session it is handed over to. -/
theorem speech_under (hminted : PlatformMinted (TableCalls Calls)) {upgrade : SttUpgrade}
    {opening : SttOpening} (hcall : Calls (.speech upgrade opening)) (h : books.InOrder plane) :
    ((PlaneCall.speech upgrade opening).script digests deployment).Under books.discipline
      (fun _ _ => True) plane := by
  refine Under.bind h ((onTables_under (sameRows_sttUpgrade digests _ upgrade)
    (sttUpgrade_under upgrade _ h.sound)).weaken fun answer t ht hover => ?_)
  cases answer with
  | error err => exact .done fun _ _ _ => trivial
  | ok handoff =>
    have hupgrade : TableCalls Calls (.sttUpgrade upgrade) := .upgrade hcall
    obtain ⟨headers, hheaders, hsay⟩ :=
      (hover.wellSealed hminted hupgrade ht.sound).headers (hminted.nowMs upgrade hupgrade)
    obtain ⟨auth, caller, secret, hauth, hadmitted, -, rfl⟩ := hover handoff rfl
    have hgood := books.admits h.start
      (hadmitted.live.owed (.speech hcall hauth hadmitted.authorized))
    dsimp only
    unfold SttOpening.start
    rw [hheaders]
    dsimp only
    split
    · exact .done fun _ _ _ => trivial
    next claims haccept =>
      -- what it accepts are the claims it was sent
      obtain ⟨-, -, -, -, exp, rfl⟩ := HandoffHeaders.accept_ok haccept
      refine Under.exec fun u hu htu => ⟨⟨InOrder.startSession hu (fun nowMs session hmeta => ?_)
        (books.good_later (hgood false) htu), .refl _⟩, fun _ _ _ => trivial⟩
      rw [ids_of_readMeta hmeta, HandoffHeaders.claims, hsay.accountId, hsay.clientId,
        hsay.requestId, hsay.modelId]
      rfl

/-- An attempt to meter a job. -/
theorem job_under (index : Nat) (clock : FinalizeClock) (gatewayLogId : Option String) :
    ((PlaneCall.job index clock gatewayLogId).script digests deployment).Under books.discipline
      (fun _ _ => True) plane := by
  refine Under.read_bind fun t ht _ => ?_
  cases hjob : t.longruns[index]? with
  | none => exact .done fun _ _ _ => trivial
  -- the job was started for its client, and its event is metered
  | some params =>
    have hgood := ht.jobs params (List.mem_of_getElem? hjob)
    have hmetered (period : Option PeriodRow) :
        (params.event clock gatewayLogId period).metered = true := by
      unfold PlaneLongRunParams.event
      -- a charge that is already there is not made again
      split <;> rfl
    dsimp only
    rw [meterJob, onMoney_bind, onTables, Script.zoom_bind]
    refine Under.bind ht (Under.read_bind fun u hu htu => ?_)
    dsimp only
    split
    · exact .done fun _ _ _ => .done fun _ _ _ => trivial
    rw [onMoney_bind, Script.zoom_bind]
    refine Under.read_bind fun v hv huv => ?_
    rw [onMoney_bind, Script.zoom_bind]
    refine Under.bind hv ((recordsIn_under (recordsIn_onTables _ _) ?_).weaken fun _ _ _ _ => ?_)
    · rw [PlaneLongRunParams.ids_event, hmetered]
      exact books.good_later hgood (Later.trans htu huv)
    · exact .done fun _ _ _ => .done fun _ _ _ => trivial

/-! ## The end of a session -/

section close

variable {session : SessionMeta} {attempt : SttAttempt} {catalog : Catalog} {client : ClientRow}
  {account : AccountRow} {planRow : Option PlanRow}

/-- A refusal to charge goes to the account of the client, or to the one that was named. -/
theorem recheck_error {reason accountId : String}
    (h : session.recheck catalog attempt client account planRow = .error (reason, accountId)) :
    accountId = client.accountId ∨ accountId = account.id := by
  unfold SessionMeta.recheck at h
  dsimp only at h
  -- a revoked client is refused to its own account
  split at h
  · exact .inl (Prod.mk.inj (Except.error.inj h)).2.symm
  split at h
  · exact .inr (Prod.mk.inj (Except.error.inj h)).2.symm
  split at h
  · exact .inr (Prod.mk.inj (Except.error.inj h)).2.symm
  unfold SessionMeta.recheckPlan at h
  split at h
  · exact .inr (Prod.mk.inj (Except.error.inj h)).2.symm
  split at h
  · exact .inr (Prod.mk.inj (Except.error.inj h)).2.symm
  split at h
  · cases h
  · exact .inr (Prod.mk.inj (Except.error.inj h)).2.symm

/-- A session is charged only to a client that is not revoked. -/
theorem recheck_ok {plan : Plan}
    (h : session.recheck catalog attempt client account planRow = .ok plan) :
    client.revokedAt = none := by
  unfold SessionMeta.recheck at h
  dsimp only at h
  split at h
  · cases h
  split at h
  · cases h
  next hlive => exact Option.not_isSome_iff_eq_none.mp hlive

/-- The row of a session, with both its owners found. -/
theorem record_under (priceRow : Option ModelPriceRow) (hclient : client.id = session.clientId)
    (hclientAccount : client.accountId = session.accountId)
    (haccount : account.id = session.accountId)
    (hgood : books.Good plane.tables session.ids false)
    (hcharges : client.revokedAt = none → books.Good plane.tables session.ids true) :
    (onStt (session.record catalog attempt priceRow client account planRow)).Under
      books.discipline (fun _ _ => True) plane := by
  unfold SessionMeta.record
  split
  -- refused: a row that charges nothing
  next reason accountId hrefused =>
    have howner : accountId = session.accountId := by
      rcases recheck_error hrefused with rfl | rfl
      · exact hclientAccount
      · exact haccount
    refine (recordsIn_under (recordsIn_onStt _ _) ?_).trivial
    show books.Good plane.tables ⟨session.requestId, accountId, client.id, session.modelId⟩ false
    rw [howner, hclient]
    exact hgood
  -- charged: the client was not revoked when the row was priced
  next plan hcharged =>
    rw [SessionMeta.charge, bind_eq_bind, onStt, Script.zoom_bind]
    refine Under.read_bind fun t _ hle => ?_
    refine (recordsIn_under (recordsIn_onStt _ _) ?_).trivial
    show books.Good t.tables ⟨session.requestId, account.id, client.id, session.modelId⟩ true
    rw [haccount, hclient]
    exact books.good_later (hcharges (recheck_ok hcharged)) hle

/-- `finalize`: the owners it finds are the ones the session was opened for. -/
theorem meter_under (h : books.InOrder plane)
    (hgood : books.Good plane.tables session.ids false) :
    (onStt (session.meter catalog attempt)).Under books.discipline (fun _ _ => True) plane := by
  have hprice : (onStt (getEntryPrice (catalog.findModel session.modelId))).Under books.discipline
      (fun _ t => Later (TableCalls Calls) plane.tables t.tables) plane := by
    unfold getEntryPrice
    split
    · exact .done fun t _ hle => hle
    · exact Under.read fun t _ hst u _ htu => Later.trans hst htu
  rw [SessionMeta.meter, bind_eq_bind, onStt, Script.zoom_bind]
  refine Under.bind h (hprice.weaken fun priceRow t ht hle => ?_)
  -- the client, then the account, then the plan
  rw [bind_eq_bind, Script.zoom_bind]
  refine Under.read_bind fun u hu htu => ?_
  rw [bind_eq_bind, Script.zoom_bind]
  refine Under.read_bind fun v hv huv => ?_
  rw [bind_eq_bind, Script.zoom_bind]
  refine Under.read_bind fun w hw hvw => ?_
  have hgoodU := books.good_later hgood (Later.trans hle htu)
  have hlate := Later.trans huv hvw
  unfold SessionMeta.settle
  split
  next client account hclient haccount =>
    replace hclient : u.tables.clients.find? (·.id = session.clientId) = some client := hclient
    replace haccount : v.tables.ledger.accounts session.accountId = some account := haccount
    have hmem := List.mem_of_find?_eq_some hclient
    have hid : client.id = session.clientId := by simpa using List.find?_some hclient
    obtain ⟨s, howed⟩ := books.owed hgoodU
    refine record_under _ hid (howed.found hu.sound hmem hid)
      (hv.sound.accounts (_, account) haccount).key (books.good_later hgoodU hlate) fun hlive => ?_
    exact books.good_later (books.charges hu.sound hu.start hgoodU hmem hid hlive) hlate
  · exact .done fun _ _ _ => trivial

/-- The end of a session keeps the books. -/
theorem close_under (index : Nat) (attempt : SttAttempt) :
    ((PlaneCall.close index attempt).script digests deployment).Under books.discipline
      (fun _ _ => True) plane := by
  refine Under.read_bind fun t ht _ => ?_
  split
  · exact .done fun _ _ _ => trivial
  next session hmeta =>
    -- only a session with readable metadata settles, and the books know its ids
    obtain ⟨stored, hstored, hmeta⟩ := Option.bind_eq_some_iff.mp hmeta
    exact meter_under ht
      (InOrder.sessions ht stored (List.mem_of_getElem? hstored) _ session hmeta)

end close

/-! ## Every call -/

/-- Every call keeps the books. -/
theorem call_under (hminted : PlatformMinted (TableCalls Calls)) {call : PlaneCall}
    (hcall : Calls call) (h : books.InOrder plane) :
    (call.script digests deployment).Under books.discipline (fun _ _ => True) plane := by
  cases call with
  | access call hbare =>
    exact (onTables_under (sameRows_script digests _ hbare)
      (script_under _ (.access hcall) h.sound)).map.trivial
  | chat http world => exact (chat_under hcall h).map.trivial
  | nonChat door request world createdAt => exact (nonChat_under hcall h).map.trivial
  | speech upgrade opening => exact speech_under hminted hcall h
  | job index clock gatewayLogId => exact job_under index clock gatewayLogId
  | close index attempt => exact close_under index attempt

/-- Any calls keep the books, in any order of their statements. -/
theorem run_inOrder (hminted : PlatformMinted (TableCalls Calls)) {c c' : Pool Plane Unit}
    (h : c.Under books.discipline fun _ _ => True)
    (hrun : Pool.Reach (IsPlaneCall digests deployment Calls) c c') :
    books.InOrder c'.store := by
  refine (Pool.under_reach h (fun script hscript plane hplane => ?_) hrun).1.1
  obtain ⟨call, hcall, rfl⟩ := hscript
  exact call_under hminted hcall hplane

end Books

/-! ## Every row -/

variable (digests deployment Calls) in
/-- The books of the requests that clients made. -/
def requestBooks : Books digests deployment Calls where
  Start _ := True
  Old _ := False
  Good t ids _ := ∃ s, Owed digests deployment Calls s ids t
  start_later _ _ := trivial
  good_later h hlater := by
    obtain ⟨s, howed⟩ := h
    exact ⟨s, howed.later hlater⟩
  owed h := h
  admits _ howed _ := ⟨_, howed⟩
  charges _ _ h _ _ _ := h

/-- The plane the migrations leave has empty books. -/
theorem under_migrated (now : Int) :
    Pool.Under (requestBooks digests deployment Calls).discipline (fun _ _ => True)
      (⟨.migrated now, []⟩ : Pool Plane Unit) := by
  refine ⟨⟨sound_migrated digests _ now, trivial, fun row h => ?_, fun params h => ?_,
    fun stored h => ?_⟩, fun script h => ?_⟩ <;> cases h

/-- The books are in order in every state of a run. -/
theorem PlaneRun.inOrder {now : Int} {c : Pool Plane Unit}
    (h : PlaneRun digests deployment Calls now c) (hminted : PlatformMinted (TableCalls Calls)) :
    (requestBooks digests deployment Calls).InOrder c.store :=
  Books.run_inOrder hminted (under_migrated now) h

variable (digests deployment Calls) in
/-- The client a row names: of an account there is, made by an enrollment, with the request of
    the row its own. Its tickets were minted with its key. -/
structure Attributed (db : AccessDb) (row : UsageEventRow) (client : ClientRow) : Prop where
  clientId : client.id = row.clientId
  accountId : client.accountId = row.accountId
  account : (db.ledger.accounts row.accountId).isSome
  enrolled : ∃ ip body random, TableCalls Calls (.enroll ip body random) ∧
    IssuedBy digests random client
  asked : Asked digests deployment Calls client db row.requestId row.modelId
  tickets : ∀ hash ticket, db.sttTickets hash = some ticket → ticket.clientId = client.id →
    ∃ authorization nowMs random,
      MintedFor digests (TableCalls Calls) authorization nowMs random client (hash, ticket)

/-- Every usage row is a request of the client it names, for a model of the catalog at the
    modality's own door, which the client's own key opened; and it is the client's account that
    the row is charged to. No other request of anyone, and no write of an operator, puts a row
    there. -/
theorem rows_attributed {now : Int} {c : Pool Plane Unit}
    (h : PlaneRun digests deployment Calls now c) (hminted : PlatformMinted (TableCalls Calls)) :
    ∀ row ∈ c.store.tables.ledger.usageEvents, ∃ client ∈ c.store.tables.clients,
      Attributed digests deployment Calls c.store.tables row client := by
  intro row hrow
  have hbooks := h.inOrder hminted
  obtain ⟨s, client, hlive, hid, haccount, hasked⟩ := (hbooks.rows row hrow).resolve_left id
  obtain ⟨found, hfound, hkeep⟩ := hlive.row
  obtain ⟨hfoundId, hfoundAccount, hkeyId, hhash⟩ := hkeep.fields
  have hsound := hbooks.sound.clients found hfound
  refine ⟨found, hfound, hfoundId.trans hid, hfoundAccount.trans haccount, ?_, hsound.issued, ?_,
    fun hash ticket hticket hclient => ?_⟩
  · have : found.accountId = row.accountId := hfoundAccount.trans haccount
    exact this ▸ hsound.account
  · exact hasked.of_keeps hkeep
  -- a ticket bears an id, which one client of the store has
  · obtain ⟨authorization, nowMs, random, owner, howner, hminted⟩ :=
      (hbooks.sound.tickets (hash, ticket) hticket).minted
    obtain rfl : owner = found := hbooks.sound.distinct.eq_of_id howner hfound
      (hminted.clientId.symm.trans hclient)
    exact ⟨authorization, nowMs, random, hminted⟩

end books

/-! ## A run -/

/-- A deployment with one chat model. -/
def sampleDeployment : Deployment := ⟨[llama32], true, true, some "a-gateway-token"⟩

/-- A chat request with the key of the sample. -/
def sampleChat : ChatHttp where
  authorization := some ("Bearer " ++ sampleKeyBytes.clientKey)
  body := .ok (.obj [("model", .str llama32.id),
    ("messages", .arr [.obj [("role", .str "user"), ("content", .str "Hello")]])])
  requestId := newRequestId (.replicate 12 7)
  nowMs := 1000
  useId := newId "use" (.replicate 6 8)

/-- A model that answers. -/
def sampleWorld : ChatWorld where
  run _ := .ok (.obj [("choices", .arr [.obj [("message", .obj [("content", .str "Hi")])]]),
    ("usage", .obj [("prompt_tokens", .num 5), ("completion_tokens", .num 2)])]) none
  events := []
  createdAt := 0

/-- The app of the sample enrolls, and asks a model. -/
def planeCalls : List PlaneCall :=
  [.access (.createAccount (.obj [("plan_id", .str "dev")]) sampleAccountId "grant") rfl,
    .access (.createEnrollment (.obj [("account_id", .str sampleAccountId)]) 0
      "a-token-of-the-operator") rfl,
    .access (.enroll "192.0.2.1"
      (.ok (.obj [("enrollment_token", .str "a-token-of-the-operator")])) sampleKeyBytes) rfl,
    .chat sampleChat sampleWorld]

/-- A client enrolls and asks one question. -/
def samplePlane : Pool Plane Unit :=
  Pool.exec ⟨.migrated 0, planeCalls.map fun call => call.script sampleDigests sampleDeployment⟩
    ([0, 0, 0, 1, 1] ++ List.replicate 7 2 ++ List.replicate 11 3)

/-- Calls that are started one after the other and then take turns. -/
theorem planeRun_exec {digests : Media.Digests} {deployment : Deployment}
    {Calls : PlaneCall → Prop} {calls : List PlaneCall} (h : ∀ call ∈ calls, Calls call) (now : Int)
    (schedule : List Nat) : PlaneRun digests deployment Calls now (Pool.exec ⟨.migrated now,
      calls.map fun call => call.script digests deployment⟩ schedule) := by
  refine (Pool.reach_start _ [] _ fun script hscript => ?_).trans (Pool.reach_exec _ _)
  obtain ⟨call, hcall, rfl⟩ := List.mem_map.mp hscript
  exact ⟨call, h call hcall, rfl⟩

/-- The call opens no account but the one of the sample, and no session. -/
def PlaneCall.isSample : PlaneCall → Bool
  | .access (.createAccount _ accountId _) _ => accountId == sampleAccountId
  | .access (.sttUpgrade _) _ => false
  | .speech _ _ => false
  | _ => true

/-- The sample calls take their ids from the platform. -/
theorem platformMinted_of_isSample {calls : List PlaneCall}
    (h : (calls.all PlaneCall.isSample) = true) : PlatformMinted (TableCalls (· ∈ calls)) where
  accountId raw accountId grantId hcall := by
    -- sample accounts take their id from fixed bytes, and no sample call opens a speech session
    cases hcall with
    | access hcall => exact ⟨.replicate 6 5, beq_iff_eq.mp (List.all_eq_true.mp h _ hcall)⟩
  requestId req hcall := by
    cases hcall with
    | access hcall => cases List.all_eq_true.mp h _ hcall
    | upgrade hcall => cases List.all_eq_true.mp h _ hcall
  nowMs req hcall := by
    cases hcall with
    | access hcall => cases List.all_eq_true.mp h _ hcall
    | upgrade hcall => cases List.all_eq_true.mp h _ hcall

/-- The answer of the sample is charged to the client that asked. -/
theorem rows_attributed_sample : ∃ row ∈ samplePlane.store.tables.ledger.usageEvents,
    row.microUsd = 1 ∧ ∃ client ∈ samplePlane.store.tables.clients,
      Attributed sampleDigests sampleDeployment (· ∈ planeCalls) samplePlane.store.tables row
        client := by
  have hrow : (samplePlane.store.tables.ledger.usageEvents.any (·.microUsd == 1)) = true := by
    decide +kernel
  obtain ⟨row, hmem, hcharge⟩ := List.any_eq_true.mp hrow
  have hrun : PlaneRun sampleDigests sampleDeployment (· ∈ planeCalls) 0 samplePlane :=
    planeRun_exec (fun _ h => h) 0 _
  exact ⟨row, hmem, beq_iff_eq.mp hcharge,
    rows_attributed hrun (platformMinted_of_isSample (by decide +kernel)) row hmem⟩

end ControlPlane
