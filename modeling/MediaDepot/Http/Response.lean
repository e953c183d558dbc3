import MediaDepot.Fault
import MediaDepot.Header
import MediaDepot.Text.Pieces
import MediaDepot.Text.Utf8

/-!
# Responses

A response has headers with names in small letters. The length of the body and its media type are
added where the given headers do not name them; answers that cannot have a body get no length.

* `Response.make?` — a response, unless one of its headers cannot be written in Latin-1.
-/

namespace MediaDepot.Http

open Text

/-- A response to a request. -/
structure Response where
  status : Int
  headers : Headers
  body : Bytes
  deriving Repr, BEq, Inhabited

/-- The first run of characters of a text that Latin-1 lacks. -/
def latin1Fault? (text : String) : Option Fault :=
  let cs := text.toList
  let isOutside (c : Char) : Bool := 256 ≤ c.toNat
  match cs.findIdx? isOutside with
  | none => none
  | some first =>
    let run := (cs.drop first).takeWhile isOutside
    some (.notLatin1 text first (first + run.length - 1))

/-- The headers as they are sent: names in small letters, everything in Latin-1. -/
def encodeHeaders (headers : Headers) : Except Fault Headers :=
  headers.mapM fun (name, value) => do
    let name := lower name
    match latin1Fault? name, latin1Fault? value with
    | some fault, _ => .error fault
    | none, some fault => .error fault
    | none, none => .ok (name, value)

/-- May an answer with this status have a length? -/
def hasLength (status : Int) : Bool := !(status < 200 || status == 204 || status == 304)

/-- A media type as it is sent: text names its encoding. -/
def contentType (mediaType : String) : String :=
  if mediaType.startsWith "text/" && !occurs "charset=".toList (lower mediaType).toList then
    mediaType ++ "; charset=utf-8"
  else mediaType

/-- The header of this name with this value, unless the headers have one of this name already. -/
def unlessGiven (headers : Headers) (name : String) (value : Option String) : Headers :=
  match value with
  | some value => if (headers.lookup name).isSome then [] else [(name, value)]
  | none => []

/-- A response. `length` is the length to be announced, if one is known. -/
def Response.make? (status : Int) (headers : Headers) (mediaType : Option String)
    (length : Option Nat) (body : Bytes) : Except Fault Response := do
  let given ← encodeHeaders headers
  let type := mediaType.map contentType
  match type.bind latin1Fault? with
  | some fault => .error fault
  | none =>
    let length := if hasLength status then length.map toString else none
    return ⟨status, given ++ unlessGiven given "content-length" length
      ++ unlessGiven given "content-type" type, body⟩

/-- A response with a body that is known as a whole. -/
def Response.whole? (status : Int) (headers : Headers) (mediaType : Option String) (body : Bytes) :
    Except Fault Response :=
  Response.make? status headers mediaType (some body.length) body

/-- A response whose body is sent as it is read. -/
def Response.streamed? (status : Int) (headers : Headers) (mediaType : Option String)
    (body : Bytes) : Except Fault Response :=
  Response.make? status headers mediaType none body

mutual

/-- Has the value no number without digits in it? -/
def isFinite : Json → Bool
  | .float x => match x with
    | .finite .. => true
    | _ => false
  | .arr items => areFinite items
  | .obj fields => areFiniteFields fields
  | _ => true

/-- Have the items no number without digits in them? -/
def areFinite : List Json → Bool
  | [] => true
  | item :: rest => isFinite item && areFinite rest

/-- Have the fields no number without digits in them? -/
def areFiniteFields : List (String × Json) → Bool
  | [] => true
  | (_, value) :: rest => isFinite value && areFiniteFields rest

end

/-- A response with a document as its body. -/
def Response.document? (status : Int) (headers : Headers) (document : Json) :
    Except Fault Response :=
  if isFinite document then
    Response.whole? status headers (some "application/json") (utf8 document.render)
  else .error (.value .endlessNumber)

end MediaDepot.Http
