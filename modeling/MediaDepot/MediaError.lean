import MediaDepot.Fault

/-!
# Media errors

The ways in which work on files fails as a matter of its own: bad configuration, unknown files,
operations that a handler does not offer, and refusals of the storage behind it. The fault that led
to an error is kept beside it.

* `BackendError.of` — the error for a fault of the storage; its code is the one the storage gave.
* `MediaError.message` — the text of an error.
* `Failure` — a media error or any other fault.
-/

namespace MediaDepot

/-- What is wrong with a configuration. -/
inductive ConfigError where
  /-- Fields do not have the form they should have. -/
  | fields (faults : List FieldFault)
  /-- A required field is empty. -/
  | missing (what : String)
  /-- There is no handler of this name. -/
  | unknownHandler (name : String) (available : List String)
  /-- No client for the object store can be made. -/
  | noClient (cause : Fault)
  /-- Said in words. -/
  | other (message : String)
  deriving Repr, BEq, Inhabited

namespace ConfigError

/-- The text of a configuration error. -/
def message : ConfigError → String
  | .fields _ => "failed to parse config"
  | .missing what => "missing " ++ what
  | .unknownHandler name available =>
    let names := if available.isEmpty then "<none>" else ", ".intercalate available
    "Media handler '" ++ name ++ "' is not registered. Available handlers: " ++ names
  | .noClient cause => "failed to create S3 client: " ++ cause.message
  | .other message => message

/-- The fault that led to the error. -/
def cause? : ConfigError → Option Fault
  | .fields faults => some (.document faults)
  | .noClient cause => some cause
  | _ => none

end ConfigError

/-- A call to the storage that failed. -/
structure BackendError where
  operation : String
  key : Option String
  /-- The code that the storage gave, null if it gave none. -/
  code : Json
  detail : Option String
  cause : Option Fault
  deriving Repr, BEq, Inhabited

namespace BackendError

/-- The error for a fault of the storage. -/
def of (operation : String) (key : Option String) (fault : Fault) : BackendError where
  operation
  key
  code := if fault.storeCode.isEmpty then .null else .str fault.storeCode
  detail := some fault.message
  cause := some fault

/-- A part of a message, left out if it is empty. -/
def part (before : String) (text : Option String) (after : String) : String :=
  match text with
  | some text => if text.isEmpty then "" else before ++ text ++ after
  | none => ""

/-- A code in a message, left out if it is nothing. -/
def codePart (code : Json) : String := if code.isTruthy then " [" ++ code.display ++ "]" else ""

/-- The text of the error. -/
def message (e : BackendError) : String :=
  e.operation ++ " failed" ++ part " for '" e.key "'" ++ codePart e.code ++ part ": " e.detail ""

end BackendError

/-- What is known of an object that could not be deleted. -/
abbrev Undeleted := Fields

/-- An object that could not be deleted. -/
def Undeleted.of (key code message : String) : Undeleted :=
  [("key", .str key), ("code", .str code), ("message", .str message)]

/-- An error in the work on files. -/
inductive MediaError where
  | config (error : ConfigError)
  | notFound (id : Option String) (cause : Option Fault)
  | unsupported (operation : String)
  | backend (error : BackendError)
  /-- Some objects could not be deleted. -/
  | batch (failures : List Undeleted)
  /-- Said in words. -/
  | other (message : String)
  deriving Repr, BEq, Inhabited

namespace MediaError

/-- The code of a deletion that failed: that of the first object, null if it has none. -/
def batchCode (failures : List Undeleted) : Json :=
  (failures.head?.bind fun first => Fields.get? first "code").getD .null

/-- A deletion that failed, as a failed call to the storage. -/
def batchError (failures : List Undeleted) : BackendError where
  operation := "delete"
  key := none
  code := batchCode failures
  detail := some (toString failures.length ++ " object(s) could not be deleted")
  cause := none

/-- The text of the error. -/
def message : MediaError → String
  | .config error => error.message
  | .notFound id _ =>
    match id with
    | some id => if id.isEmpty then "file not found" else "file not found: " ++ id
    | none => "file not found"
  | .unsupported operation => operation ++ " is not supported by this media handler"
  | .backend error => error.message
  | .batch failures => (batchError failures).message
  | .other message => message

/-- The fault that led to the error. -/
def cause? : MediaError → Option Fault
  | .config error => error.cause?
  | .notFound _ cause => cause
  | .backend error => error.cause
  | _ => none

end MediaError

/-- Why an action did not come to its end. -/
inductive Failure where
  | fault (fault : Fault)
  | media (error : MediaError)
  deriving Repr, BEq, Inhabited

namespace Failure

/-- The text of a failure. -/
def message : Failure → String
  | .fault f => f.message
  | .media error => error.message

/-- A value that cannot be used. -/
def value (fault : ValueFault) : Failure := .fault (.value fault)

/-- A call to the storage that failed. -/
def backend (operation key : String) (fault : Fault) : Failure :=
  .media (.backend (.of operation (some key) fault))

/-- What a fault of a call is reported as: refusals of the store are trouble of the storage,
anything else stays what it is. -/
def ofCall (operation key : String) (fault : Fault) : Failure :=
  if fault.isStoreRefusal then .backend operation key fault else .fault fault

end Failure

end MediaDepot
