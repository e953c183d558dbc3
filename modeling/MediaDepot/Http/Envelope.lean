import MediaDepot.Http.Error
import MediaDepot.Http.Response
import MediaDepot.Text.Blank

/-!
# Envelopes

Every answer with a document has the same outer form: whether it succeeded, a message, the data, and
the request's id if there is one.

* `success` and `failure` — the two envelopes.
* `describe` — the message and the data for the detail of an error.
* `publicPart` — what of a document is told to others.
* `RequestError.respond?` — the response to a request that failed.
-/

namespace MediaDepot.Http

/-- The beginning of the names of fields that are nobody else's business. -/
def internalStart : List Char := ['_', 's', 'a']

/-- Is it the name of a field that is nobody else's business? -/
def isInternal (name : String) : Bool := internalStart.isPrefixOf name.toList

/-- The part of a document that is told to others. -/
def publicPart (document : Json) : Json := document.without isInternal

/-- The id of the request as the last field, unless it is empty. -/
def idField (requestId : Option String) : Fields :=
  match requestId with
  | some id => if id.isEmpty then [] else [("requestId", .str id)]
  | none => []

/-- The outer form of an answer. -/
def envelope (succeeded : Bool) (message : String) (data : Json) (requestId : Option String) :
    Json :=
  .obj ([("success", .bool succeeded), ("message", .str message), ("data", data)]
    ++ idField requestId)

/-- The envelope of an answer that succeeded. -/
def success (data : Json) (message : String) (requestId : Option String) : Json :=
  envelope true message data requestId

/-- The envelope of an answer that failed. -/
def failure (message : String) (data : Json) (requestId : Option String) : Json :=
  envelope false message data requestId

/-- The message of a success that has no message of its own. -/
def successMessage : String := "Success"

/-- The message of an error without a text of its own. -/
def failureMessage : String := "Request failed"

/-- The code of an error without a code of its own. -/
def failureCode : Json := .str "HTTP_EXCEPTION"

/-- The data of an error. -/
def errorData (code details : Json) : Json := .obj [("code", code), ("details", details)]

/-- The message and the data for the detail of an error. A detail with a message that is not blank
may bring its own code and details; one without is given as a whole. -/
def describe (detail : Json) : String × Json :=
  match detail with
  | .obj fields =>
    let unnamed := (failureMessage, errorData failureCode detail)
    match Fields.get? fields "message" with
    | some (.str message) =>
      if Text.isBlankText message then unnamed
      else (message, errorData ((Fields.get? fields "code").getD failureCode)
        ((Fields.get? fields "details").getD .null))
    | _ => unnamed
  | .null => (failureMessage, errorData failureCode .null)
  | value => (value.display, errorData failureCode .null)

/-- A response with the public part of an envelope. -/
def envelopeResponse? (status : Int) (headers : Headers) (envelope : Json) :
    Except Fault Response :=
  Response.document? status headers (publicPart envelope)

/-- A response with the envelope of an answer that failed. -/
def errorResponse? (status : Int) (message : String) (data : Json) (headers : Headers)
    (requestId : Option String) : Except Fault Response :=
  envelopeResponse? status headers (failure message data requestId)

/-- The headers with the given values; a value that is no text cannot be sent. -/
def textHeaders (fields : Fields) : Except Fault Headers :=
  fields.mapM fun (name, value) =>
    match value with
    | .str value => .ok (name, value)
    | value => .error (.noAttribute value.kindName "encode")

/-- The response to a request that failed. -/
def RequestError.respond? (error : RequestError) (requestId : Option String) :
    Except Fault Response := do
  let (message, data) := describe error.detail
  errorResponse? error.status message data (← textHeaders (error.headers.getD [])) requestId

/-- What a route gives back: a value to be put into an envelope, or a response of its own. -/
inductive Outcome where
  | value (data : Json)
  | response (response : Response)

/-- The response to a request that succeeded. -/
def Outcome.respond? (outcome : Outcome) (message : String) (status : Int)
    (requestId : Option String) : Except Fault Response :=
  match outcome with
  | .value data => envelopeResponse? status [] (success data message requestId)
  | .response own => .ok own

end MediaDepot.Http
