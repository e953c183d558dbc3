import MediaDepot.Handler.Bucket
import MediaDepot.Handler.Local
import MediaDepot.Registry

/-!
# Handlers

A handler keeps the content of files, in a folder or in a bucket. Which of the two it is shows only
in what its operations do.

* `Handler` — a handler of either kind, with its operations.
-/

namespace MediaDepot

/-- A handler of either kind. -/
inductive Handler where
  | files (handler : LocalHandler)
  | bucket (handler : BucketHandler)
  deriving Repr, Inhabited

namespace Handler

/-- A new handler, before it has a configuration of its own. -/
def new : Backend → Handler
  | .files => .files {}
  | .bucket => .bucket {}

/-- Where the handler keeps files. -/
def backend : Handler → Backend
  | .files _ => .files
  | .bucket _ => .bucket

/-- What all handlers need to know. -/
def serveConfig : Handler → ServeConfig
  | .files h => h.config.toServeConfig
  | .bucket h => h.config.toServeConfig

/-- The configuration as it is written. -/
def configFields : Handler → Fields
  | .files h => h.config.toFields
  | .bucket h => h.config.toFields

/-- Takes a new configuration. `given` says that a client for the object store is there already; a
folder has no use for one. -/
def init (raw : RawConfig) (given : Bool) : Handler → StateM Site (Handler × Except Failure Unit)
  | .files h => do
    if given then
      return (.files h,
        .error (.fault (.wrongType "local files take no client of an object store")))
    let (h, outcome) ← h.init raw
    return (.files h, outcome)
  | .bucket h => do
    let (h, outcome) ← h.init raw given
    return (.bucket h, outcome)

/-- Headers for a request. -/
def headers (handler : Handler) (request : FileRequest) : Action HeaderResult :=
  match handler with
  | .files h => h.headers request
  | .bucket h => h.headers request

/-- Brings the content of a file to where the handler keeps it. -/
def transfer (handler : Handler) (record : Record) (source : Source) : StateM Site Transfer :=
  match handler with
  | .files h => h.transfer record source
  | .bucket h => h.transfer record source

/-- Uploads a file: its row is added before its content comes in. -/
def upload (handler : Handler) (record : Record) (source : Source) : StateM Depot Transfer := do
  let (record, outcome) ← register record
  match outcome with
  | .error failure => return ⟨record, .error failure⟩
  | .ok _ => Action.onSite (handler.transfer record source)

/-- Downloads a file. -/
def download (handler : Handler) (url : String) : Action Download :=
  match handler with
  | .files h => h.download url
  | .bucket _ => BucketHandler.download

/-- Deletes files. -/
def delete (handler : Handler) (locations : List String) : Action Unit :=
  match handler with
  | .files h => h.delete locations
  | .bucket h => h.delete locations

/-- The identifier in a URL. -/
def uidOf (handler : Handler) (url : String) : Action Uid := identify handler.serveConfig url

end Handler

end MediaDepot
