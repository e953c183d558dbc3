import MediaDepot.MediaError
import MediaDepot.Records.Collection
import MediaDepot.Site.Basic

/-!
# Record stores

The records are kept in memory or as documents of a database; both offer the same operations.

* `Depot` — the records together with the site; `Action` is work on it that may fail. What was done
  before a failure stays done.
* `RecordStore.get`, `enter`, `finish`, `removeStale` — the operations.
-/

namespace MediaDepot

/-- Where records are kept. -/
inductive RecordStore where
  | memory (memory : Memory)
  | database (collection : Collection)
  deriving Inhabited

/-- The records and the site. -/
structure Depot where
  records : RecordStore
  site : Site
  deriving Inhabited

/-- Work on a depot that may fail. -/
abbrev Action (α : Type) := ExceptT Failure (StateM Depot) α

namespace Action

/-- Work on the site alone. -/
def onSite {α : Type} (work : StateM Site α) : StateM Depot α :=
  modifyGet fun depot =>
    let (a, site) := work.run depot.site
    (a, { depot with site })

/-- The outcome of work, whether it fails or not. -/
def attempt {α : Type} (work : Action α) : StateM Depot (Except Failure α) := work.run

/-- Goes on with an outcome. -/
def ofOutcome {α : Type} (outcome : StateM Depot (Except Failure α)) : Action α :=
  ExceptT.mk outcome

/-- Work on the site alone that may fail; `report` says what a fault is reported as. -/
def ask {α : Type} (report : Fault → Failure) (work : StateM Site (Except Fault α)) : Action α :=
  ofOutcome do return (← onSite work).mapError report

/-- Fails with a fault. -/
def fault {α : Type} (fault : Fault) : Action α := throw (.fault fault)

/-- Fails with a media error. -/
def mediaError {α : Type} (error : MediaError) : Action α := throw (.media error)

/-- Writes a line to the log. -/
def say (level : Level) (text : String) : StateM Depot Unit := onSite (Site.say level text)

/-- The time in whole seconds. -/
def epoch : StateM Depot Int := return (← get).site.epoch

/-- What was read, or the failure for what is wrong with a value. -/
def ofValue {α : Type} : Except ValueFault α → Action α
  | .ok a => pure a
  | .error fault => throw (.value fault)

/-- What was read, or the failure for a fault. -/
def ofFault {α : Type} : Except Fault α → Action α
  | .ok a => pure a
  | .error fault => throw (.fault fault)

end Action

namespace RecordStore

open MediaDepot.Action

/-- The texts of the statuses of unfinished uploads. -/
def unusedStatuses : List String := [Status.pending, .failed].map Status.text

/-- Notes a call to the database. -/
def note (call : Call) : Action Unit := (onSite (Site.note call) : StateM Depot Unit)

/-- Replaces the records. -/
def put (records : RecordStore) : Action Unit := modify fun depot => { depot with records }

/-- The record that a document holds, if there is a document. -/
def decode? : Option Fields → Except Fault (Option Record)
  | none => .ok none
  | some fields => (Record.ofDocument fields).map some

/-- The record with an identifier. -/
def get (id : String) : Action (Option Record) := do
  match (← MonadState.get).records with
  | .memory rows => return rows.get? id
  | .database documents =>
    note (.findOne id)
    ofFault (decode? (documents.find? id))

/-- Adds the row of an upload that starts. -/
def start (record : Record) : Action Unit := do
  match (← MonadState.get).records with
  | .memory rows => put (.memory (← ofValue (rows.start record)))
  | .database documents =>
    note (.insertOne record.toDocument)
    put (.database (← ofFault (documents.insert record.id record.toDocument)))

/-- Enters an upload that starts: the record as it then is, and whether its row could be added. -/
def enter (record : Record) : StateM Depot (Record × Except Failure Unit) := do
  let record := record.begun (← epoch)
  return (record, ← attempt (start record))

/-- What changes in the document of an upload that has come to its end. -/
def settlement (now : Int) (record : Record) (success : Bool) (size : Int) : Fields :=
  if success then [
    ("status", .str Status.ready.text), ("size", .int size), ("location", .str record.location),
    ("etag", .str record.etag), ("updated_at", .int now)]
  else [("status", .str Status.failed.text), ("size", .int 0), ("updated_at", .int now)]

/-- Settles the row of an upload that has come to its end; the result is the row, if it is still
there. -/
def finish (record : Record) (success : Bool) (size : Int) : Action (Option Record) := do
  let now ← epoch
  match (← MonadState.get).records with
  | .memory rows =>
    let (rows, row) := rows.finish now record success size
    put (.memory rows)
    return row
  | .database documents =>
    let changes := settlement now record success size
    note (.updateOne record.id changes)
    put (.database (documents.update record.id changes))
    get record.id

/-- Finds the rows of unfinished uploads in the database. -/
def findStale (olderThan limit : Int) (collection : Collection) : Action (List Record) := do
  note (.findStale unusedStatuses olderThan)
  note (.fetch limit)
  ofFault ((collection.stale unusedStatuses olderThan limit).mapM Record.ofDocument)

/-- Removes documents from the database. -/
def deleteMany (keys : List String) : Action Unit := do
  note (.deleteMany keys)
  match (← MonadState.get).records with
  | .database documents => put (.database (documents.delete keys))
  | .memory _ => pure ()

/-- Removes the rows of uploads left unfinished since before the given time, at most so many; the
result says where their objects are. -/
def removeStale (olderThan limit : Int) : Action (List String) := do
  match (← MonadState.get).records with
  | .memory rows =>
    let (rows, locations) := rows.removeStale olderThan limit
    put (.memory rows)
    return locations
  | .database documents =>
    let stale ← findStale olderThan limit documents
    if stale.isEmpty then return []
    deleteMany (stale.map (·.id))
    return stale.map (·.staleLocation)

end RecordStore

end MediaDepot
