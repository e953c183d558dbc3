import MediaDepot.Config.Checked
import MediaDepot.Json.Parser
import MediaDepot.MediaError
import MediaDepot.Text.Utf8

/-!
# Configuration of handlers

The configuration of a handler is given as a document, as its text or as the bytes of its text, or
not at all. Fields of other names are ignored.

* `ServeConfig`, `LocalConfig`, `BucketConfig` — what handlers need to know.
* `LocalConfig.parse`, `BucketConfig.parse` — reading; what is missing or counts as nothing takes
  its default.
* `BucketConfig.firstMissing?` — the first required field that is empty.
-/

namespace MediaDepot

open Number

/-- What all handlers need to know. -/
structure ServeConfig where
  serveUrl : String := "/v0/file/s/"
  origins : List String := []
  cacheControl : String := "no-cache, must-revalidate"
  deriving DecidableEq, Repr, Inhabited

/-- What the handler of local files needs to know. -/
structure LocalConfig extends ServeConfig where
  uploadDir : String := "uploads"
  deriving DecidableEq, Repr, Inhabited

/-- For how many seconds a signed URL is good if nothing else is said. -/
def defaultLinkSeconds : Int := 120

/-- What the handler of an object store needs to know. -/
structure BucketConfig extends ServeConfig where
  accessKey : String := ""
  secretKey : String := ""
  region : String := ""
  disableTls : Bool := false
  pathStyle : Bool := false
  endpoint : String := ""
  bucket : String := ""
  linkSeconds : Int := defaultLinkSeconds
  deriving DecidableEq, Repr, Inhabited

/-- A configuration before it is read. -/
inductive RawConfig where
  | absent
  | text (text : String)
  | bytes (bytes : Bytes)
  | document (fields : Fields)
  deriving Repr, Inhabited

namespace RawConfig

/-- How deep containers may be nested in the text of a configuration. -/
def maxDepth : Nat := 200

/-- The fields written in a text. -/
def fieldsOfText (cs : List Char) : Except FieldFault Fields :=
  match Json.parse? maxDepth cs with
  | some (.obj fields) => .ok fields
  | some _ => .error ⟨none, none, .object⟩
  | none => .error ⟨none, none, .document⟩

/-- The fields of a configuration; none if it is absent or empty. -/
def fields : RawConfig → Except FieldFault Fields
  | .absent => .ok []
  | .document given => .ok given
  | .text s => if s.isEmpty then .ok [] else fieldsOfText s.toList
  | .bytes [] => .ok []
  | .bytes given =>
    match Text.ofUtf8? given with
    | some s => fieldsOfText s.toList
    | none => .error ⟨none, none, .document⟩

end RawConfig

namespace ServeConfig

/-- The common fields. -/
def check (fields : Fields) : Checked ServeConfig :=
  let origins : Checked (List String) :=
    match fields.get? "cors_origins" with
    | some value => Lax.texts "cors_origins" value
    | none => .sound []
  let default : ServeConfig := {}
  ServeConfig.mk
    <$> Checked.optional fields "serve_url" default.serveUrl (Lax.textOr default.serveUrl)
    <*> origins
    <*> Checked.optional fields "cache_control" default.cacheControl
      (Lax.textOr default.cacheControl)

/-- The common fields as they are written. -/
def toFields (config : ServeConfig) : Fields := [
  ("serve_url", .str config.serveUrl),
  ("cors_origins", .arr (config.origins.map .str)),
  ("cache_control", .str config.cacheControl)]

end ServeConfig

/-- A configuration from what its fields say. -/
def ofChecked {α : Type} : Checked α → Except Failure α
  | .sound config => .ok config
  | .faulty faults => .error (.media (.config (.fields faults)))

/-- Reads a configuration, `read` saying what its fields mean. -/
def parseConfig {α : Type} (read : Fields → Except Failure α) (raw : RawConfig) :
    Except Failure α :=
  match raw.fields with
  | .ok fields => read fields
  | .error fault => .error (.media (.config (.fields [fault])))

namespace LocalConfig

/-- All fields. -/
def check (fields : Fields) : Checked LocalConfig :=
  let default : LocalConfig := {}
  LocalConfig.mk
    <$> ServeConfig.check fields
    <*> Checked.optional fields "upload_dir" default.uploadDir (Lax.textOr default.uploadDir)

/-- Reads a configuration. -/
def parse (raw : RawConfig) : Except Failure LocalConfig :=
  parseConfig (fun fields => ofChecked (check fields)) raw

/-- All fields as they are written. -/
def toFields (config : LocalConfig) : Fields :=
  config.toServeConfig.toFields ++ [("upload_dir", .str config.uploadDir)]

end LocalConfig

namespace BucketConfig

/-- The words for a value that no whole number can be made of. -/
def noNumberMessage (value : Json) : String :=
  "int() argument must be a string, a bytes-like object or a real number, not '"
    ++ value.kindName ++ "'"

/-- A number of seconds, taken roughly: how it compares with zero decides whether it counts. `none`
stands for a text that is no number or a number without digits. -/
def roughSeconds : Json → Except Fault (Option Int)
  | .int n => .ok (some n)
  | .bool b => .ok (some (if b then 1 else 0))
  | .str s => .ok (ofSettingText? s)
  | .float .nan => .ok none
  | .float x =>
    match x.truncate with
    | some n => .ok (some n)
    | none => .error (.overflow "cannot convert float infinity to integer")
  | value => .error (.wrongType (noNumberMessage value))

/-- For how many seconds a signed URL is good. Nothing, zero and less take the default. -/
def linkSecondsOf : Json → Except Fault (Except Misfit Int)
  | .null => .ok (.ok defaultLinkSeconds)
  | value => do
    match ← roughSeconds value with
    | none => return .error .value
    | some n => return if n ≤ 0 then .ok defaultLinkSeconds else Lax.whole value

/-- The lifetime of signed URLs, if given. -/
def checkLinkSeconds (fields : Fields) : Except Fault (Checked Int) :=
  match fields.get? "presign_ttl" with
  | none => .ok (.sound defaultLinkSeconds)
  | some value => do
    match ← linkSecondsOf value with
    | .ok n => return .sound n
    | .error misfit => return .faulty [⟨some "presign_ttl", none, misfit⟩]

/-- All fields, given what is known of the lifetime of signed URLs. -/
def check (fields : Fields) (linkSeconds : Checked Int) : Checked BucketConfig :=
  BucketConfig.mk
    <$> ServeConfig.check fields
    <*> Checked.optional fields "access_key_id" "" Lax.textOrNull
    <*> Checked.optional fields "secret_access_key" "" Lax.textOrNull
    <*> Checked.optional fields "region" "" Lax.textOrNull
    <*> Checked.optional fields "disable_ssl" false Lax.truth
    <*> Checked.optional fields "force_path_style" false Lax.truth
    <*> Checked.optional fields "endpoint" "" Lax.textOrNull
    <*> Checked.optional fields "bucket" "" Lax.textOrNull
    <*> linkSeconds

/-- Reads a configuration. -/
def parse (raw : RawConfig) : Except Failure BucketConfig :=
  parseConfig (fun fields =>
    match checkLinkSeconds fields with
    | .ok linkSeconds => ofChecked (check fields linkSeconds)
    | .error fault => .error (.fault fault)) raw

/-- The first required field that is empty. -/
def firstMissing? (config : BucketConfig) : Option ConfigError :=
  if config.accessKey.isEmpty then some (.missing "Access Key ID")
  else if config.secretKey.isEmpty then some (.missing "Secret Access Key")
  else if config.region.isEmpty then some (.missing "Region")
  else if config.bucket.isEmpty then some (.missing "Bucket")
  else none

/-- All fields as they are written. -/
def toFields (config : BucketConfig) : Fields :=
  config.toServeConfig.toFields ++ [
    ("access_key_id", .str config.accessKey),
    ("secret_access_key", .str config.secretKey),
    ("region", .str config.region),
    ("disable_ssl", .bool config.disableTls),
    ("force_path_style", .bool config.pathStyle),
    ("endpoint", .str config.endpoint),
    ("bucket", .str config.bucket),
    ("presign_ttl", .int config.linkSeconds)]

end BucketConfig

end MediaDepot
