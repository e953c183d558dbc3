import MediaDepot.Header

/-!
# Requests from other origins

Which origins may read the answers, and the answer to the question a browser asks beforehand.

* `allowedOrigin` — the origin named in the answer, empty if the request's origin is not allowed.
* `negotiate` — the headers for a request, and whether they are the whole answer.
-/

namespace MediaDepot.CrossOrigin

/-- Headers of an answer with a status; status zero means that the answer is not complete. -/
structure Negotiation where
  headers : Headers
  status : Nat
  deriving DecidableEq, Repr

/-- The methods that browsers are told of. -/
def allowedMethods : String := "GET, HEAD, OPTIONS, POST, PUT"

/-- For how many seconds browsers may keep the answer to their question. -/
def maxAge : String := "86400"

/-- The origin named in the answer: every origin if all are allowed, the request's own if that is
among the allowed ones, otherwise none. -/
def allowedOrigin (allowed : List String) (origin : Option String) : String :=
  match origin with
  | none => ""
  | some origin =>
    if origin.isEmpty then ""
    else if allowed.contains "*" then "*"
    else if allowed.contains origin then origin
    else ""

/-- Does the method ask for what is allowed? -/
def isPreflight (method : String) : Bool := Text.upper method == "OPTIONS"

/-- The header that names the allowed origin, if there is one. -/
def originHeader (origin : String) : Headers :=
  if origin.isEmpty then [] else [("Access-Control-Allow-Origin", origin)]

/-- The headers of the answer to a browser's question. -/
def preflightHeaders : Headers := [
  ("Vary", "Origin, Access-Control-Request-Method"),
  ("Access-Control-Allow-Methods", allowedMethods),
  ("Access-Control-Allow-Headers", "*"),
  ("Access-Control-Max-Age", maxAge)]

/-- The headers of an answer to any other request. -/
def answerHeaders (origin : String) : Headers :=
  if origin.isEmpty then [] else [("Access-Control-Allow-Origin", origin), ("Vary", "Origin")]

/-- The headers for a request. Only requests under the serve URL take part; a browser's question is
answered completely in any case. -/
def negotiate (method : String) (headers : Headers) (allowed : List String) (serve : Bool) :
    Negotiation :=
  if serve then
    let origin := allowedOrigin allowed (headers.get? "Origin")
    if isPreflight method then ⟨originHeader origin ++ preflightHeaders, 204⟩
    else ⟨answerHeaders origin, 0⟩
  else ⟨[], if isPreflight method then 204 else 0⟩

end MediaDepot.CrossOrigin
