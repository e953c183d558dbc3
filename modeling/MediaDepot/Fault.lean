import MediaDepot.Json.Printer
import MediaDepot.Url.Split

/-!
# Faults

Everything that can interrupt the work apart from the library's own media errors: refusals of the
object store, trouble with files, values that cannot be used.

* `Fault.message` — the text of a fault.
* `Fault.ofRefusal` — the fault for a refusal of the object store.
* `Fault.storeCode` — the code that the object store gave, empty if it gave none.
-/

namespace MediaDepot

/-- What the object store or the way to it reports. -/
inductive StoreFault where
  /-- The store answered an operation with an error document. -/
  | refused (response : Json) (operation : String)
  /-- The store cannot be reached. -/
  | unreachable (url : String)
  /-- Nothing is known to sign requests with. -/
  | noCredentials
  /-- A managed transfer broke off. -/
  | transfer (message : String)
  deriving Repr, BEq, Inhabited

namespace StoreFault

/-- The error part of an error document. -/
def errorPart (response : Json) : Json := (response.get? "Error").getD (.obj [])

/-- A field of the error part as it is shown. -/
def shown (response : Json) (field : String) : String :=
  match (errorPart response).get? field with
  | some value => value.display
  | none => "Unknown"

/-- The part of an error document that tells how the request went. -/
def metadataPart : String := "ResponseMetadata"

/-- How often the operation was tried, if that was too often. -/
def retryText (response : Json) : String :=
  match response.get? metadataPart with
  | some metadata =>
    match metadata.get? "MaxAttemptsReached", metadata.get? "RetryAttempts" with
    | some reached, some attempts =>
      if reached.isTruthy then " (reached max retries: " ++ attempts.display ++ ")" else ""
    | _, _ => ""
  | none => ""

/-- The text of a report. -/
def message : StoreFault → String
  | .refused response operation =>
    "An error occurred (" ++ shown response "Code" ++ ") when calling the " ++ operation
      ++ " operation" ++ retryText response ++ ": " ++ shown response "Message"
  | .unreachable url => "Could not connect to the endpoint URL: \"" ++ url ++ "\""
  | .noCredentials => "Unable to locate credentials"
  | .transfer message => message

/-- The code in an error document; no code at all is empty. -/
def code : StoreFault → String
  | .refused response _ =>
    match (errorPart response).get? "Code" with
    | some value => value.display
    | none => ""
  | _ => ""

/-- The parts that an error document must have as objects, if it has them at all, in the order in
which they are read. -/
def objectParts : List String := [metadataPart, "Error"]

/-- The first part of an error document that should be an object and is not. -/
def badPart? (fields : Fields) : Option Json :=
  (objectParts.filterMap (Fields.get? fields)).find? fun part =>
    match part with
    | .obj _ => false
    | _ => true

end StoreFault

/-- What can be wrong with a path. -/
inductive PathFault where
  | missing
  | exists
  | notFolder
  | isFolder
  | nameTooLong
  deriving DecidableEq, Repr, Inhabited

namespace PathFault

/-- The number of the condition. -/
def number : PathFault → Nat
  | .missing => 2
  | .exists => 17
  | .notFolder => 20
  | .isFolder => 21
  | .nameTooLong => 36

/-- The condition in words. -/
def words : PathFault → String
  | .missing => "No such file or directory"
  | .exists => "File exists"
  | .notFolder => "Not a directory"
  | .isFolder => "Is a directory"
  | .nameTooLong => "File name too long"

/-- The code under which a file that could not be deleted is reported. -/
def code : PathFault → String
  | .missing => "FileNotFoundError"
  | .exists => "FileExistsError"
  | .notFolder => "NotADirectoryError"
  | .isFolder => "IsADirectoryError"
  | .nameTooLong => "OSError"

end PathFault

/-- What can be wrong with a value. -/
inductive ValueFault where
  /-- The number of an identifier does not fit into 64 bits. -/
  | uidRange
  | url (fault : Url.Fault)
  /-- There is a record with this identifier. -/
  | recordExists (id : String)
  /-- There is a handler of this name. -/
  | handlerExists (name : String)
  /-- The location is not a plain file name. -/
  | badLocation (location : String)
  /-- A path holds a NUL. -/
  | nulInPath
  /-- A setting is not a whole number. -/
  | number (text : String)
  /-- A document to be sent holds a number without digits. -/
  | endlessNumber
  /-- Reported from outside. -/
  | reported (message : String)
  deriving Repr, DecidableEq, Inhabited

/-- The text of a fault of a value. -/
def ValueFault.message : ValueFault → String
  | .uidRange => "uid must fit into 64 bits"
  | .url fault => fault.message
  | .recordExists id => "file record '" ++ id ++ "' already exists"
  | .handlerExists name => "Media handler '" ++ name ++ "' is already registered"
  | .badLocation location => "invalid location '" ++ location ++ "'"
  | .nulInPath => "embedded null byte"
  | .number text => "invalid literal for int() with base 10: " ++ Text.quoted text
  | .endlessNumber => "Out of range float values are not JSON compliant"
  | .reported message => message

/-- In what way a value does not have the form it should have. -/
inductive Misfit where
  /-- It should be a text. -/
  | text
  /-- It should be true or false. -/
  | truth
  /-- It does not say true or false. -/
  | truthWord
  /-- It should be a whole number. -/
  | whole
  /-- It does not spell a whole number. -/
  | wholeText
  /-- It is too large for a whole number. -/
  | wholeSize
  /-- It has a fraction. -/
  | fraction
  /-- It has no digits. -/
  | endless
  /-- It should be a list. -/
  | list
  /-- It cannot be used. -/
  | value
  /-- It is none of the words it should be one of. -/
  | choice
  /-- It is not there. -/
  | missing
  /-- It should be an object. -/
  | object
  /-- It is no document. -/
  | document
  deriving DecidableEq, Repr, Inhabited

/-- The code of a misfit. -/
def Misfit.code : Misfit → String
  | .text => "string_type"
  | .truth => "bool_type"
  | .truthWord => "bool_parsing"
  | .whole => "int_type"
  | .wholeText => "int_parsing"
  | .wholeSize => "int_parsing_size"
  | .fraction => "int_from_float"
  | .endless => "finite_number"
  | .list => "tuple_type"
  | .value => "value_error"
  | .choice => "enum"
  | .missing => "missing"
  | .object => "model_type"
  | .document => "json_invalid"

/-- A field of a document that does not have the form it should have. `item` is the place in a
list. -/
structure FieldFault where
  field : Option String
  item : Option Nat
  misfit : Misfit
  deriving Repr, DecidableEq, Inhabited

/-- What interrupts the work. -/
inductive Fault where
  | store (fault : StoreFault)
  | path (fault : PathFault) (path : String)
  /-- Trouble with input or output, reported from outside. -/
  | io (message : String)
  | value (fault : ValueFault)
  /-- A state in which the work cannot go on. -/
  | state (message : String)
  /-- A document with this key is already there. -/
  | duplicateKey
  /-- The periodical sweep runs already. -/
  | sweeperRuns
  /-- A document does not have the form it should have. -/
  | document (faults : List FieldFault)
  /-- A value of this kind does not have this attribute. -/
  | noAttribute (kind name : String)
  /-- A value of this kind cannot be used here. -/
  | wrongType (message : String)
  /-- A number is too large. -/
  | overflow (message : String)
  /-- A text cannot be written in Latin-1: the characters from `first` to `last` have no byte. -/
  | notLatin1 (text : String) (first last : Nat)
  /-- A text cannot be written in UTF-8: from the character `first` to `last` it has halves of
  surrogate pairs, of which this is the first. -/
  | loneHalf (code first last : Nat)
  /-- A file is not well-formed UTF-8. -/
  | notUtf8
  deriving Repr, BEq, Inhabited

namespace Fault

/-- The words for characters that cannot be written, the first of which is shown if it is the only
one. -/
def unwritten (charset shown : String) (first last : Nat) (reason : String) : String :=
  let place :=
    if first = last then " '" ++ shown ++ "' in position " ++ toString first
    else "s in position " ++ toString first ++ "-" ++ toString last
  "'" ++ charset ++ "' codec can't encode character" ++ place ++ ": " ++ reason

/-- The words for the characters that have no byte. -/
def latin1Message (text : String) (first last : Nat) : String :=
  let shown := String.ofList (Text.escapedCode (text.toList[first]?.getD ' ').toNat)
  unwritten "latin-1" shown first last "ordinal not in range(256)"

/-- The words for halves of surrogate pairs. -/
def halfMessage (code first last : Nat) : String :=
  unwritten "utf-8" (String.ofList (Text.escapedCode code)) first last "surrogates not allowed"

/-- The text of a fault. -/
def message : Fault → String
  | .store fault => fault.message
  | .path fault place =>
    "[Errno " ++ toString fault.number ++ "] " ++ fault.words ++ ": " ++ Text.quoted place
  | .io message => message
  | .value fault => fault.message
  | .state message => message
  | .duplicateKey => "E11000 duplicate key error"
  | .sweeperRuns => "Scheduler is already running"
  | .document _ => "the document does not have the form it should have"
  | .noAttribute kind name => "'" ++ kind ++ "' object has no attribute '" ++ name ++ "'"
  | .wrongType message => message
  | .overflow message => message
  | .notLatin1 text first last => latin1Message text first last
  | .loneHalf code first last => halfMessage code first last
  | .notUtf8 => "the file is not well-formed UTF-8"

/-- The fault for a refusal of an operation by the object store: its error document, or what is
wrong with that. In a text or a list the name of a part may be found, but not the part itself. -/
def ofRefusal (response : Json) (operation : String) : Fault :=
  match response with
  | .obj fields =>
    match StoreFault.badPart? fields with
    | some part => .noAttribute part.kindName "get"
    | none => .store (.refused response operation)
  | .str text =>
    if Text.occurs StoreFault.metadataPart.toList text.toList then
      .wrongType "string indices must be integers, not 'str'"
    else .noAttribute response.kindName "get"
  | .arr items =>
    if items.contains (.str StoreFault.metadataPart) then
      .wrongType "list indices must be integers or slices, not str"
    else .noAttribute response.kindName "get"
  | _ => .wrongType ("argument of type '" ++ response.kindName ++ "' is not iterable")

/-- The code that the object store gave, empty if it gave none. -/
def storeCode : Fault → String
  | .store fault => fault.code
  | _ => ""

/-- Is it trouble with input, output or files? -/
def isInputOutput : Fault → Bool
  | .path _ _ => true
  | .io _ => true
  | _ => false

/-- Did the object store or the way to it report the fault, other than a managed transfer? -/
def isStoreRefusal : Fault → Bool
  | .store (.transfer _) => false
  | .store _ => true
  | _ => false

end Fault

end MediaDepot
