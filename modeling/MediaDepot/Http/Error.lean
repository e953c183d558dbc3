import MediaDepot.Http.Phrase
import MediaDepot.MediaError
import MediaDepot.Header

/-!
# Errors of requests

A request that fails is answered with a status and a detail. The errors of this application have a
message, a code and details; what the framework around it refuses has a detail of any form.

* `RequestError.ofMedia` — the error for a media error. It depends on the kind of the error, the
  file, the operation and the storage's codes, never on texts.
-/

namespace MediaDepot.Http

/-- The codes of errors of this application. -/
inductive ErrorCode where
  | resourceNotFound
  | validationFailed
  | internalError
  | mediaUnsupported
  | mediaBackendError
  | mediaUploadInvalid
  deriving DecidableEq, Repr

/-- The text of a code. -/
def ErrorCode.text : ErrorCode → String
  | .resourceNotFound => "RESOURCE_NOT_FOUND"
  | .validationFailed => "VALIDATION_FAILED"
  | .internalError => "INTERNAL_ERROR"
  | .mediaUnsupported => "MEDIA_UNSUPPORTED"
  | .mediaBackendError => "MEDIA_BACKEND_ERROR"
  | .mediaUploadInvalid => "MEDIA_UPLOAD_INVALID"

/-- The code with the given text. -/
def ErrorCode.ofText? (text : String) : Option ErrorCode :=
  [.resourceNotFound, .validationFailed, .internalError, .mediaUnsupported, .mediaBackendError,
    .mediaUploadInvalid].find? fun code => code.text == text

/-- Why a request fails. -/
structure RequestError where
  status : Int
  detail : Json
  /-- Headers of the answer. Only texts can be sent. -/
  headers : Option Fields
  deriving Repr, BEq

namespace RequestError

/-- An error of this application. -/
def ofCode (status : Int) (code : ErrorCode) (message : String) (details : Json)
    (headers : Option Fields) : RequestError :=
  ⟨status, .obj [("message", .str message), ("code", .str code.text), ("details", details)],
    headers⟩

/-- A refusal by the framework; without a detail, the phrase of the status is the detail. -/
def refusal (status : Int) (detail : Option Json) (headers : Option Fields) : RequestError :=
  ⟨status, detail.getD (.str (phrase status)), headers⟩

/-- There is no such thing. -/
def notFound (resource : String) (id : Option String) : RequestError :=
  let named : Fields :=
    match id with
    | some id => if id.isEmpty then [] else [("resource_id", .str id)]
    | none => []
  ofCode 404 .resourceNotFound (resource ++ " not found")
    (.obj (("resource", .str resource) :: named)) none

/-- An upload that cannot be taken. -/
def uploadInvalid (message : String) (details : Json) : RequestError :=
  ofCode 400 .mediaUploadInvalid message details none

/-- A failed call to the storage. -/
def ofBackend (operation : String) (code : Json) (more : Fields) : RequestError :=
  ofCode 502 .mediaBackendError "Storage backend error"
    (.obj ([("operation", .str operation), ("backend_code", code)] ++ more)) none

/-- The error that a media error is shown as. -/
def ofMedia : MediaError → RequestError
  | .notFound id _ => notFound "File" id
  | .unsupported operation =>
    ofCode 501 .mediaUnsupported "Operation not supported"
      (.obj [("operation", .str operation)]) none
  | .backend error => ofBackend error.operation error.code []
  | .batch failures =>
    ofBackend "delete" (MediaError.batchCode failures) [("failures", .arr (failures.map .obj))]
  | .config _ | .other _ => ofCode 500 .internalError "Internal Server Error" .null none

end RequestError

end MediaDepot.Http
