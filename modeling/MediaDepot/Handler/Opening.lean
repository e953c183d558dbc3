import MediaDepot.CrossOrigin
import MediaDepot.Config.Basic
import MediaDepot.Records.Store
import MediaDepot.Url.Serve

/-!
# Requests for files

What all handlers have in common when a file is asked for: rules for other origins come first, then
the identifier in the URL, then its record, then the question whether the client's copy is still
good.

* `FileRequest` — a request.
* `Handler.start` — what it comes to before a handler's own part.
-/

namespace MediaDepot

/-- A request for a file; `serve` says whether it came under the serve URL. -/
structure FileRequest where
  method : String
  url : String
  headers : Headers
  serve : Bool
  deriving Repr, Inhabited

/-- Headers for a request. Status zero means that the content is still to come. -/
structure HeaderResult where
  headers : Headers := []
  status : Nat := 0
  /-- Where the client is sent, as the object store gave it. -/
  target : Option Json := none
  deriving Repr, BEq, Inhabited

/-- An upload that came to its end. -/
structure Uploaded where
  url : String
  size : Nat
  deriving DecidableEq, Repr, Inhabited

/-- The record of an upload as far as it came, and how it ended. -/
structure Transfer where
  record : Record
  outcome : Except Failure Uploaded

/-- The content of a file with its record. -/
structure Download where
  record : Record
  content : Bytes
  deriving Repr, Inhabited

namespace Handler

/-- What a request comes to before a handler's own part. -/
inductive Opening where
  /-- The headers are the whole answer. -/
  | answered (result : HeaderResult)
  /-- The file is there; `crossOrigin` are the headers for other origins. -/
  | file (uid : Uid) (record : Record) (crossOrigin : Headers)

/-- The identifier in a URL. -/
def identify (config : ServeConfig) (url : String) : Action Uid :=
  match Uid.ofUrl url config.serveUrl with
  | .ok uid => pure uid
  | .error fault => throw (.value (.url fault))

/-- The record of the file that a URL names. -/
def find (config : ServeConfig) (url : String) : Action (Uid × Record) := do
  let uid ← identify config url
  if uid.isZero then Action.mediaError (.notFound none none)
  else match ← RecordStore.get uid.text with
    | some record => return (uid, record)
    | none => Action.mediaError (.notFound (some uid.text) none)

/-- The methods that bring content instead of asking for it. -/
def bringsContent (method : String) : Bool := method == "POST" || method == "PUT"

/-- What a request comes to before a handler's own part. The method is in capitals. -/
def start (config : ServeConfig) (method : String) (request : FileRequest) : Action Opening := do
  let asked := CrossOrigin.negotiate method request.headers config.origins request.serve
  if asked.status ≠ 0 || bringsContent method then
    return .answered { headers := asked.headers, status := asked.status }
  let (uid, record) ← find config request.url
  return .file uid record asked.headers

/-- The digest of a file as it stands in headers. -/
def quotedEtag (record : Record) : String := "\"" ++ record.etag ++ "\""

/-- Does the client hold the file with this digest already? -/
def holds (record : Record) (headers : Headers) : Bool :=
  !record.etag.isEmpty && headers.get? "If-None-Match" == some (quotedEtag record)

/-- The answer to a client that holds the file already. -/
def notModified (config : ServeConfig) (record : Record) : HeaderResult where
  headers := [("ETag", quotedEtag record), ("Cache-Control", config.cacheControl)]
  status := 304

/-- The URL of an uploaded file. -/
def urlOf (config : ServeConfig) (record : Record) : String := config.serveUrl ++ record.fileName

/-- Enters an upload that starts; a refusal is noted. -/
def register (record : Record) : StateM Depot (Record × Except Failure Unit) := do
  let (record, outcome) ← RecordStore.enter record
  match outcome with
  | .error _ => Action.say .warning ("failed to create file record " ++ record.id)
  | .ok _ => pure ()
  return (record, outcome)

end Handler

end MediaDepot
