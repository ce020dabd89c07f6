import ControlPlane.Model.Prices
import ControlPlane.Model.StoreClients

/-!
# The tables a caller is resolved from

`src/store-d1.ts`: the plans and accounts of the money tables beside the client keys, the
enrollment tokens and the tickets of the speech sessions, as one database.
-/

namespace ControlPlane

/-- A one-time ticket for a speech session, by its hash. -/
structure SttTicketRow where
  tokenHash : String
  accountId : String
  clientId : String
  expiresAt : Int
  consumedAt : Option Int
deriving Repr, DecidableEq

/-- The database, as far as the routes below read and write it. -/
structure AccessDb where
  ledger : Db
  enrollments : String → Option EnrollmentRow
  clients : List ClientRow
  sttTickets : String → Option SttTicketRow
  modelPrices : ModelPrices
  rateBuckets : RateBuckets
  now : Int

namespace AccessDb

/-- The tables of enrollment. -/
def identity (db : AccessDb) : IdentityDb :=
  ⟨db.ledger.accounts, db.enrollments, db.clients, db.rateBuckets, db.now⟩

/-- The tables with those of the identities replaced. -/
def setIdentity (db : AccessDb) (tables : IdentityDb) : AccessDb :=
  { db with
    ledger := { db.ledger with accounts := tables.accounts }
    enrollments := tables.enrollments
    clients := tables.clients
    rateBuckets := tables.rateBuckets
    now := tables.now }

/-- `datetime('now')`. -/
def datetimeNow (db : AccessDb) : Int := db.identity.datetimeNow

/-- `INSERT ... ON CONFLICT(id) DO UPDATE` of a plan. -/
def putPlan (db : AccessDb) (row : PlanRow) : AccessDb :=
  { db with ledger := { db.ledger with
      plans := fun id => if id = row.id then some row else db.ledger.plans id } }

/-- `INSERT INTO enrollments`, `false` where the hash is stored already. -/
def insertEnrollment (db : AccessDb) (row : EnrollmentRow) : AccessDb × Bool :=
  if (db.enrollments row.tokenHash).isSome then (db, false)
  else
    ({ db with enrollments := fun h =>
        if h = row.tokenHash then some row else db.enrollments h }, true)

/-- `INSERT INTO stt_tickets`, `false` where the hash is stored already. -/
def insertTicket (db : AccessDb) (row : SttTicketRow) : AccessDb × Bool :=
  if (db.sttTickets row.tokenHash).isSome then (db, false)
  else
    ({ db with sttTickets := fun h =>
        if h = row.tokenHash then some row else db.sttTickets h }, true)

/-- `UPDATE stt_tickets SET consumed_at = ... WHERE token_hash = ? AND consumed_at IS NULL
    AND datetime(expires_at) > datetime('now')`, answering whether a row changed. -/
def consumeTicket (db : AccessDb) (tokenHash : String) : AccessDb × Bool :=
  match db.sttTickets tokenHash with
  | none => (db, false)
  | some row =>
    if row.consumedAt = none ∧ sqlDatetime db.now < sqlDatetime row.expiresAt then
      ({ db with sttTickets := fun h =>
          if h = tokenHash then some { row with consumedAt := some db.datetimeNow }
          else db.sttTickets h }, true)
    else (db, false)

/-- The row of a client that is revoked at `at`, if it is not yet. -/
def revokedRow (clientId : String) (time : Int) (row : ClientRow) : ClientRow :=
  if row.id = clientId ∧ row.revokedAt = none then { row with revokedAt := some time } else row

/-- `UPDATE clients SET revoked_at = ... WHERE id = ? AND revoked_at IS NULL`, answering
    whether a row changed. -/
def revoke (db : AccessDb) (clientId : String) : AccessDb × Bool :=
  ({ db with clients := db.clients.map (revokedRow clientId db.datetimeNow) },
    db.clients.any fun row => row.id = clientId ∧ row.revokedAt = none)

end AccessDb

/-- A script on the money tables. -/
def onMoney {α : Type} (script : Script Db α) : Script AccessDb α :=
  script.zoom (·.ledger) fun db ledger => { db with ledger := ledger }

/-- A script on the tables of enrollment. -/
def onIdentity {α : Type} (script : Script IdentityDb α) : Script AccessDb α :=
  script.zoom AccessDb.identity AccessDb.setIdentity

/-- The client of a key id. -/
def getClientByKeyId (keyId : String) : Script AccessDb (Option ClientRow) :=
  Script.read fun db => db.clients.find? (·.keyId == keyId)

/-- `getClient`. -/
def getAccessClient (clientId : String) : Script AccessDb (Option ClientRow) :=
  Script.read fun db => db.clients.find? (·.id == clientId)

/-- Store a plan. -/
def putPlan (row : PlanRow) : Script AccessDb Unit := Script.exec fun db => (db.putPlan row, ())

/-- Whether the client was alive until this call. -/
def revokeClient (clientId : String) : Script AccessDb Bool :=
  Script.exec fun db => db.revoke clientId

/-- What an insert that failed throws. -/
def inserted (landed : Bool) : Except String Unit :=
  if landed then .ok () else .error "UNIQUE constraint failed"

/-- What an enrollment token is stored with. -/
structure CreateEnrollmentArgs where
  tokenHash : String
  accountId : String
  expiresAt : Int
  note : Option String
deriving Repr, DecidableEq

/-- `createEnrollment`, or what it throws. -/
def createEnrollment (args : CreateEnrollmentArgs) : Script AccessDb (Except String Unit) := do
  let landed ← Script.exec fun db =>
    db.insertEnrollment ⟨args.tokenHash, args.accountId, args.expiresAt, none, none, args.note⟩
  pure (inserted landed)

/-- What a ticket is stored with. -/
structure CreateSttTicketArgs where
  tokenHash : String
  accountId : String
  clientId : String
  expiresAt : Int
deriving Repr, DecidableEq

/-- The row `createSttTicket` inserts. -/
def CreateSttTicketArgs.row (args : CreateSttTicketArgs) : SttTicketRow :=
  ⟨args.tokenHash, args.accountId, args.clientId, args.expiresAt, none⟩

/-- `createSttTicket`, or what it throws. -/
def createSttTicket (args : CreateSttTicketArgs) : Script AccessDb (Except String Unit) := do
  let landed ← Script.exec fun db => db.insertTicket args.row
  pure (inserted landed)

/-- The account and client of a ticket that was consumed. -/
structure ConsumedTicket where
  accountId : String
  clientId : String
deriving Repr, DecidableEq

/-- Single-use redemption, with the guard of the enrollments. -/
def consumeSttTicket (tokenHash : String) : Script AccessDb (Option ConsumedTicket) := do
  let changed ← Script.exec fun db => db.consumeTicket tokenHash
  -- read from the row this call has claimed
  if changed then
    Script.read fun db => (db.sttTickets tokenHash).map fun row => ⟨row.accountId, row.clientId⟩
  else pure none

end ControlPlane
