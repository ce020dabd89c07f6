import ControlPlane.Model.RateLimit
import ControlPlane.Model.StoreD1

/-!
# Clients and enrollments

`src/store-d1.ts`, the tables an installed app is enrolled in: the client keys, the
one-time tokens they are traded for, and the accounts and rate buckets the route reads.
-/

namespace ControlPlane

/-- One installed app. The secret is stored as its hash only. -/
structure ClientRow where
  id : String
  accountId : String
  keyId : String
  secretHash : String
  label : Option String
  platform : Option String
  createdAt : Int
  revokedAt : Option Int
deriving Repr, DecidableEq

/-- A one-time enrollment token, by its hash. -/
structure EnrollmentRow where
  tokenHash : String
  accountId : String
  expiresAt : Int
  consumedAt : Option Int
  consumedByClient : Option String
  note : Option String
deriving Repr, DecidableEq

/-- The row once a client consumed it. -/
def EnrollmentRow.consumed (row : EnrollmentRow) (consumedAt : Int) (clientId : String) :
    EnrollmentRow :=
  { row with consumedAt := some consumedAt, consumedByClient := some clientId }

/-- The tables of enrollment, and the database's clock. -/
structure IdentityDb where
  accounts : String → Option AccountRow
  enrollments : String → Option EnrollmentRow
  clients : List ClientRow
  rateBuckets : RateBuckets
  now : Int

namespace IdentityDb

/-- `datetime('now')`. -/
def datetimeNow (db : IdentityDb) : Int := sqlDatetime db.now * 1000000000

/-- `clients`: `id` is the primary key and `key_id` is unique. -/
def clientConflict (row stored : ClientRow) : Bool :=
  stored.id == row.id || stored.keyId == row.keyId

/-- `UPDATE enrollments SET consumed_at = ... WHERE token_hash = ? AND consumed_at IS NULL
    AND datetime(expires_at) > datetime('now')`, answering whether a row changed. -/
def consume (db : IdentityDb) (tokenHash clientId : String) : IdentityDb × Bool :=
  match db.enrollments tokenHash with
  | none => (db, false)
  | some row =>
    -- SQLite compares the two times by their seconds
    if row.consumedAt = none ∧ sqlDatetime db.now < sqlDatetime row.expiresAt then
      ({ db with
          enrollments := fun h =>
            if h = tokenHash then some (row.consumed db.datetimeNow clientId)
            else db.enrollments h }, true)
    else (db, false)

/-- `INSERT INTO clients`, `false` where a constraint fails. -/
def insertClient (db : IdentityDb) (row : ClientRow) : IdentityDb × Bool :=
  let insert := Table.insertOrIgnore clientConflict row db.clients
  ({ db with clients := insert.1 }, insert.2)

end IdentityDb

/-- The account of an id. -/
def getIdentityAccount (id : String) : Script IdentityDb (Option AccountRow) :=
  Script.read fun db => db.accounts id

/-- `SELECT CAST(strftime('%s','now') AS INTEGER)`. -/
def nowEpochSeconds : Script IdentityDb Int :=
  Script.read fun db => sqlDatetime db.now

/-- A script on the rate buckets. -/
def onRateBuckets {α : Type} (script : Script RateBuckets α) : Script IdentityDb α :=
  script.zoom (·.rateBuckets) (fun db buckets => { db with rateBuckets := buckets })

/-- The account of the token, once the update claimed it. -/
def consumedAccount (tokenHash : String) : Script IdentityDb (Option String) :=
  Script.read fun db => (db.enrollments tokenHash).map (·.accountId)

/-- Single-use redemption: the update's own condition decides who gets the row. -/
def consumeEnrollment (tokenHash clientId : String) : Script IdentityDb (Option String) := do
  let changed ← Script.exec fun db => db.consume tokenHash clientId
  -- the account is read from the row this call has claimed
  if changed then consumedAccount tokenHash else pure none

/-- What a client is stored with. -/
structure NewClient where
  id : String
  accountId : String
  keyId : String
  secretHash : String
  label : Option String
  platform : Option String
deriving Repr, DecidableEq

/-- The row `createClient` inserts, stamped with the database's clock. -/
def NewClient.row (client : NewClient) (createdAt : Int) : ClientRow :=
  ⟨client.id, client.accountId, client.keyId, client.secretHash, client.label, client.platform,
    createdAt, none⟩

/-- Read a client back that was inserted. -/
def readBackClient (id : String) : Script IdentityDb (Except String ClientRow) := do
  let row ← Script.read fun db => db.clients.find? (·.id == id)
  match row with
  | none => pure (.error ("client " ++ id ++ " was inserted but could not be read back"))
  | some row => pure (.ok row)

/-- Insert a client, or throw. -/
def createClient (client : NewClient) : Script IdentityDb (Except String ClientRow) := do
  let inserted ← Script.exec fun db => db.insertClient (client.row db.datetimeNow)
  if inserted then readBackClient client.id else pure (.error "UNIQUE constraint failed")

end ControlPlane
