import MediaDepot.Handler.Opening
import MediaDepot.Handler.Provisioning
import MediaDepot.Text.Pieces
import MediaDepot.Url.Query

/-!
# Files in an object store

Keeps files as objects of a bucket and sends clients to signed URLs of them.

* `BucketHandler.init` — takes a configuration, connects and sees to it that the bucket exists.
* `BucketHandler.headers`, `transfer`, `download`, `delete` — the operations.
* `batches` — deletion works on at most a thousand keys at once.
-/

namespace MediaDepot

/-- A handler that keeps files in a bucket. -/
structure BucketHandler where
  config : BucketConfig := {}
  /-- Is there a client for the object store? -/
  connected : Bool := false
  deriving DecidableEq, Repr, Inhabited

/-- The keys in groups of a thousand, the last group with what is left. -/
def batches : List String → List (List String)
  | [] => []
  | key :: rest => (key :: rest.take 999) :: batches (rest.drop 999)
termination_by keys => keys.length
decreasing_by simp only [List.length_drop, List.length_cons]; omega

namespace BucketHandler

open MediaDepot.Action Handler

/-- The codes that say that there is no such object. -/
def missingKeyCodes : List String := ["NoSuchKey", "NotFound"]

/-- The endpoint with its scheme. -/
def endpointOf (config : BucketConfig) : Option String :=
  if config.endpoint.isEmpty then none
  else if Text.occurs "://".toList config.endpoint.toList then some config.endpoint
  else some ((if config.disableTls then "http://" else "https://") ++ config.endpoint)

/-- How the object store is reached. -/
def connectionOf (config : BucketConfig) : Connection where
  region := config.region
  endpoint := endpointOf config
  useTls := !config.disableTls
  accessKey := config.accessKey
  secretKey := config.secretKey
  addressing := if config.pathStyle then "path" else "auto"

/-- What a fault of making a client is reported as. -/
def connectFailure (fault : Fault) : Failure :=
  match fault with
  | .store (.unreachable _) | .store .noCredentials | .value _ => .media (.config (.noClient fault))
  | fault => .fault fault

/-- Makes a client. -/
def connect (config : BucketConfig) : StateM Site (Except Failure Unit) := do
  let answer ← Site.ask .connect (.connect (connectionOf config)) .null
  return (answer.map fun _ => ()).mapError connectFailure

/-- Reads a configuration that has everything it needs. -/
def readConfig (raw : RawConfig) : Except Failure BucketConfig :=
  match BucketConfig.parse raw with
  | .error failure => .error failure
  | .ok config =>
    match config.firstMissing? with
    | some error => .error (.media (.config error))
    | none => .ok config

/-- Takes a new configuration. It stays also if no client can be made or the bucket cannot be seen
to. `given` says that a client is there already. -/
def init (raw : RawConfig) (given : Bool) (handler : BucketHandler) :
    StateM Site (BucketHandler × Except Failure Unit) := do
  match readConfig raw with
  | .error failure => return (handler, .error failure)
  | .ok config =>
    let made ← if given then pure (.ok ()) else connect config
    match made with
    | .error failure => return ({ handler with config }, .error failure)
    | .ok _ => return (⟨config, true⟩, ← Provisioning.provision config Provisioning.steps)

/-- What is wrong with an operation of a client that is not there. -/
def noClient (operation : String) : Fault := .noAttribute Json.null.kindName operation

/-- Work with the client. -/
def withClient {α : Type} (handler : BucketHandler) (operation : String) (work : Action α) :
    Action α :=
  if handler.connected then work else Action.fault (noClient operation)

/-- The name of the query value that asks for a download under a name. -/
def attachmentField : String := "asatt"

/-- Does the URL ask for a download? -/
def asksForAttachment (url : String) : Bool :=
  match Query.value? url attachmentField with
  | .ok value => Query.isTrue value
  | .error _ => false

/-- The headers that the object store is told to answer with. -/
def overridesFor (config : BucketConfig) (record : Record) (attachment : Bool) :
    List (String × String) :=
  [("ResponseCacheControl", config.cacheControl)]
    ++ (if record.mimeType.isEmpty then [] else [("ResponseContentType", record.mimeType)])
    ++ (if attachment then [("ResponseContentDisposition", "attachment")] else [])

/-- The signed URL for a request. -/
def linkFor (config : BucketConfig) (method key : String) (record : Record) (attachment : Bool) :
    Link where
  operation := if method = "GET" then "get_object" else "head_object"
  method
  bucket := config.bucket
  key
  overrides := if method = "GET" then overridesFor config record attachment else []
  seconds := config.linkSeconds

/-- The media type of an answer that sends the client elsewhere. -/
def redirectType : String := "application/json; charset=utf-8"

/-- Headers for a request. -/
def headers (handler : BucketHandler) (request : FileRequest) : Action HeaderResult := do
  let method := Text.upper request.method
  match ← start handler.config.toServeConfig method request with
  | .answered result => return result
  | .file uid record _ =>
    if holds record request.headers then
      return notModified handler.config.toServeConfig record
    else if method ≠ "GET" ∧ method ≠ "HEAD" then return {}
    else
      let attachment := method == "GET" && asksForAttachment request.url
      let link := linkFor handler.config method uid.key record attachment
      let target ← handler.withClient "generate_presigned_url" <|
        ask (.ofCall "presign" uid.key) (Site.sign link)
      return {
        headers := [("ETag", quotedEtag record), ("Content-Type", redirectType),
          ("Cache-Control", handler.config.cacheControl)]
        status := 308
        target := some target }

/-- What a fault of an upload is reported as: trouble of the store or of the stream is trouble of
the storage, anything else stays what it is. -/
def uploadFailure (key : String) (fault : Fault) : Failure :=
  match fault with
  | .store _ | .path _ _ | .io _ => .backend "upload" key fault
  | fault => .fault fault

/-- The media type of an object whose record has none. -/
def unknownType : String := "application/octet-stream"

/-- The media type of an object. -/
def contentTypeOf (record : Record) : String :=
  if record.mimeType.isEmpty then unknownType else record.mimeType

/-- Stores the content of a file as an object and asks what is known of that: the number of bytes
and the answer. -/
def putObject (handler : BucketHandler) (record : Record) (source : Source) :
    StateM Site (Except Fault (Nat × Json)) := do
  let config := handler.config
  if handler.connected then
    match ← Site.putObject config.bucket record.key config.cacheControl
      (contentTypeOf record) source with
    | .error fault => return .error fault
    | .ok size => return (← Site.headObject config.bucket record.key).map (size, ·)
  else return .error (noClient "upload_fileobj")

/-- The digest among what is known of an object, without quotes; none if it is null or empty. -/
def etagOf (known : Json) : Except Fault (Option String) :=
  match known with
  | .obj fields =>
    match Fields.get? fields "ETag" with
    | none => .ok none
    | some (.str etag) =>
      .ok (if etag.isEmpty then none
        else some (String.ofList (Text.stripEnds (· == '"') etag.toList)))
    | some value => if value.isTruthy then .error (.noAttribute value.kindName "strip")
      else .ok none
  | value => .error (.noAttribute value.kindName "get")

/-- Brings the content of a file to the bucket. The record learns where it is before the answer of
the store is read. -/
def transfer (handler : BucketHandler) (record : Record) (source : Source) :
    StateM Site Transfer := do
  match ← handler.putObject record source with
  | .error fault => return ⟨record, .error (uploadFailure record.key fault)⟩
  | .ok (size, known) =>
    let record := { record with location := record.key }
    match etagOf known with
    | .error fault => return ⟨record, .error (.fault fault)⟩
    | .ok etag =>
      let record := { record with etag := etag.getD record.etag }
      return ⟨record, .ok ⟨urlOf handler.config.toServeConfig record, size⟩⟩

/-- Content is not served here. -/
def download : Action Download := mediaError (.unsupported "download")

/-- A field of an entry as it is shown. -/
def shownField (entry : Json) (name : String) : String :=
  match entry.get? name with
  | some value => value.display
  | none => ""

/-- What an entry of the answer to a deletion says; an object that was not there is no failure. -/
def undeleted? (entry : Json) : Except Fault (Option Undeleted) :=
  match entry with
  | .obj _ =>
    let code := shownField entry "Code"
    if missingKeyCodes.contains code then .ok none
    else .ok (some (.of (shownField entry "Key") code (shownField entry "Message")))
  | value => .error (.noAttribute value.kindName "get")

/-- The entries of the answer to a deletion. -/
def errorEntries (answer : Json) : Except Fault (List Json) :=
  match answer with
  | .obj fields =>
    match Fields.get? fields "Errors" with
    | none => .ok []
    | some (.arr entries) => .ok entries
    | some (.obj names) => .ok (names.map fun entry => .str entry.1)
    | some (.str s) => .ok (s.toList.map fun c => .str (String.singleton c))
    | some value =>
      if value.isTruthy then
        .error (.wrongType ("'" ++ value.kindName ++ "' object is not iterable"))
      else .ok []
  | value => .error (.noAttribute value.kindName "get")

/-- What the answer to a deletion reports. -/
def undeletedOf (answer : Json) : Except Fault (List Undeleted) := do
  let entries ← errorEntries answer
  return (← entries.mapM undeleted?).filterMap id

/-- Deletes the objects of one batch. -/
def deleteBatch (handler : BucketHandler) (keys : List String) : Action (List Undeleted) := do
  let first := keys.headD ""
  let answer ← handler.withClient "delete_objects" <|
    ask (.ofCall "delete" first) (Site.deleteObjects handler.config.bucket keys)
  ofFault (undeletedOf answer)

/-- Deletes the objects of batch after batch. -/
def deleteBatches (handler : BucketHandler) : List (List String) → Action (List Undeleted)
  | [] => return []
  | batch :: rest => do
    let failures ← handler.deleteBatch batch
    return failures ++ (← handler.deleteBatches rest)

/-- Deletes objects; those that could not be deleted are reported at the end. -/
def delete (handler : BucketHandler) (locations : List String) : Action Unit := do
  let failures ← handler.deleteBatches (batches locations)
  if failures.isEmpty then return
  else mediaError (.batch failures)

end BucketHandler

end MediaDepot
