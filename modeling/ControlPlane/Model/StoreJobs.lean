import ControlPlane.Model.StoreD1

/-!
# The job rows

`src/store-d1.ts`, the table of long-run jobs beside the money tables.
-/

namespace ControlPlane

/-- Where a job stands. -/
inductive AsyncJobStatus where
  | queued
  | running
  | succeeded
  | failed
deriving Repr, DecidableEq

/-- A row of `async_jobs`. -/
structure AsyncJobRow where
  id : String
  status : AsyncJobStatus
  resultJson : Option String
  errorCode : Option String
  errorDetail : Option String
  requestId : String
  updatedAt : Int
deriving Repr, DecidableEq

/-- The money tables and the jobs. -/
structure PlaneDb where
  db : Db
  asyncJobs : String → Option AsyncJobRow

/-- A script on the money tables. -/
def onDb {α : Type} : Script Db α → Script PlaneDb α
  | .done a => .done a
  | .stmt effect next =>
    .stmt (fun s => { s with db := effect s.db }) (fun s => onDb (next s.db))

/-- What an update says of a job. An outer `none` leaves the column alone. -/
structure UpdateAsyncJobArgs where
  id : String
  status : AsyncJobStatus
  resultJson : Option (Option String)
  errorCode : Option (Option String)
  errorDetail : Option (Option String)
  updatedAt : Int

/-- The row after an update, from the columns that were read. -/
def UpdateAsyncJobArgs.apply (args : UpdateAsyncJobArgs) (existing row : AsyncJobRow) :
    AsyncJobRow :=
  { row with
    status := args.status
    resultJson := args.resultJson.getD existing.resultJson
    errorCode := args.errorCode.getD existing.errorCode
    errorDetail := args.errorDetail.getD existing.errorDetail
    updatedAt := args.updatedAt }

/-- An `UPDATE` of one job. -/
def PlaneDb.updateJob (s : PlaneDb) (id : String) (f : AsyncJobRow → AsyncJobRow) : PlaneDb :=
  { s with asyncJobs := fun j => if j = id then (s.asyncJobs j).map f else s.asyncJobs j }

/-- Update a job. One that is not there is left alone. -/
def updateAsyncJob (args : UpdateAsyncJobArgs) : Script PlaneDb Unit := do
  let existing ← Script.read fun s => s.asyncJobs args.id
  match existing with
  | none => pure ()
  | some existing => Script.exec fun s => (s.updateJob args.id (args.apply existing), ())

end ControlPlane
