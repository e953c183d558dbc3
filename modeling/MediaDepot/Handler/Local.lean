import MediaDepot.Handler.Opening

/-!
# Local files

Keeps files in a folder of the site and serves their content itself.

* `LocalHandler.pathFor` — the path of a location: a plain name in the folder, nothing else.
* `LocalHandler.init`, `headers`, `transfer`, `download`, `delete` — the operations.
-/

namespace MediaDepot

/-- A handler that keeps files in a folder. -/
structure LocalHandler where
  config : LocalConfig := {}
  deriving DecidableEq, Repr, Inhabited

namespace LocalHandler

open MediaDepot.Action Handler

/-- The folder. -/
def root (handler : LocalHandler) : FilePath := .ofText handler.config.uploadDir

/-- Is the location a plain name? Read as a path, it must be its own last name. -/
def isPlain (location : String) : Bool :=
  !location.isEmpty && (FilePath.ofText location).name == location && location != "." &&
    location != ".."

/-- The path of a location. -/
def pathFor (handler : LocalHandler) (location : String) : Except ValueFault FilePath :=
  if isPlain location then .ok (handler.root.join location) else .error (.badLocation location)

/-- Changes the files of the site. -/
def changeFiles (change : FileTree → FileTree.Change) : StateM Site (Except Fault Unit) :=
  modifyGet fun site =>
    let (files, outcome) := change site.files
    (outcome, { site with files })

/-- Takes a new configuration. It stays also if its folder cannot be made. -/
def init (raw : RawConfig) (handler : LocalHandler) :
    StateM Site (LocalHandler × Except Failure Unit) := do
  match LocalConfig.parse raw with
  | .error failure => return (handler, .error failure)
  | .ok config =>
    let handler : LocalHandler := ⟨config⟩
    let made ← changeFiles fun files => files.makeFolders handler.root
    return (handler, made.mapError .fault)

/-- Headers for a request. -/
def headers (handler : LocalHandler) (request : FileRequest) : Action HeaderResult := do
  let config := handler.config.toServeConfig
  match ← start config (Text.upper request.method) request with
  | .answered result => return result
  | .file _ record crossOrigin =>
    let basic := crossOrigin ++ [("Cache-Control", config.cacheControl)]
    if record.etag.isEmpty then return { headers := basic }
    else if holds record request.headers then return notModified config record
    else return { headers := basic ++ [("ETag", quotedEtag record)] }

/-- The size of the pieces in which content is read. -/
def pieceSize : Int := 65536

/-- Makes the folder of a file and an empty file, whose place is the result. -/
def openFile (path : FilePath) : StateM Site (Except Fault Place) := do
  match ← changeFiles fun files => files.makeFolders path.parent with
  | .error fault => return .error fault
  | .ok _ =>
    let site ← get
    match site.files.openNew path with
    | .error fault => return .error fault
    | .ok (place, files) =>
      set { site with files }
      return .ok place

/-- Writes what a source gives to a file. What was read before a fault is written too. -/
def write (path : FilePath) (source : Source) : StateM Site (Except Fault Hasher) := do
  match ← openFile path with
  | .error fault => return .error fault
  | .ok place =>
    let (content, fault, reader) := (Hasher.of source).drain pieceSize
    modify fun site => { site with files := site.files.put place (.file content) }
    match fault with
    | some fault => return .error fault
    | none => return .ok reader

/-- What a fault of an upload is reported as: trouble with files is trouble of the storage, anything
else stays what it is. -/
def uploadFailure (key : String) (fault : Fault) : Failure :=
  if fault.isInputOutput then .backend "upload" key fault else .fault fault

/-- Brings the content of a file to its place. -/
def transfer (handler : LocalHandler) (record : Record) (source : Source) :
    StateM Site Transfer := do
  match handler.pathFor record.key with
  | .error fault => return ⟨record, .error (.value fault)⟩
  | .ok path =>
    match ← write path source with
    | .error fault => return ⟨record, .error (uploadFailure record.key fault)⟩
    | .ok reader =>
      let record := { record with location := record.key, etag := reader.hexDigest }
      return ⟨record, .ok ⟨urlOf handler.config.toServeConfig record, reader.count⟩⟩

/-- What a fault of a download is reported as: a file that is not there is not found. -/
def downloadFailure (record : Record) (fault : Fault) : Failure :=
  match fault with
  | .path .missing _ | .value _ => .media (.notFound (some record.id) (some fault))
  | fault => if fault.isInputOutput then .backend "download" record.location fault else .fault fault

/-- The content at a location. -/
def content (handler : LocalHandler) (location : String) (files : FileTree) : Except Fault Bytes :=
  match handler.pathFor location with
  | .error fault => .error (.value fault)
  | .ok path => files.read path

/-- Downloads a file. -/
def download (handler : LocalHandler) (url : String) : Action Download := do
  let (_, record) ← find handler.config.toServeConfig url
  match handler.content record.location (← get).site.files with
  | .ok content => return ⟨record, content⟩
  | .error fault => throw (downloadFailure record fault)

/-- Deletes the file at a location. -/
def deleteOne (handler : LocalHandler) (location : String) (files : FileTree) :
    Except Fault FileTree :=
  match handler.pathFor location with
  | .error fault => .error (.value fault)
  | .ok path => files.remove path

/-- What is reported of a location whose file could not be deleted; a file that is not there is no
failure. -/
def undeleted? (location : String) : Fault → Option Undeleted
  | .path .missing _ => none
  | .value fault => some (.of location "InvalidKey" fault.message)
  | .path fault path => some (.of location fault.code (Fault.path fault path).message)
  | fault => some (.of location "OSError" fault.message)

/-- Deletes files one after the other, whatever happens to each. -/
def deleteAll (handler : LocalHandler) : List String → FileTree → FileTree × List Undeleted
  | [], files => (files, [])
  | location :: rest, files =>
    match handler.deleteOne location files with
    | .ok files => handler.deleteAll rest files
    | .error fault =>
      let (files, more) := handler.deleteAll rest files
      (files, (undeleted? location fault).toList ++ more)

/-- Deletes files; those that could not be deleted are reported at the end. -/
def delete (handler : LocalHandler) (locations : List String) : Action Unit := do
  let depot ← get
  let (files, failures) := handler.deleteAll locations depot.site.files
  set { depot with site := { depot.site with files } }
  if failures.isEmpty then return
  else mediaError (.batch failures)

end LocalHandler

end MediaDepot
