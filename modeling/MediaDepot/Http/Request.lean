import MediaDepot.Header
import MediaDepot.Text.Utf8
import MediaDepot.Url.Host

/-!
# Requests

* `Request` — a request as it comes in.
* `Request.host` — the host it is sent to; a name that cannot be one does not count.
* `Request.url` — its URL as the handlers see it.
-/

namespace MediaDepot.Http

/-- A request. The path is decoded. -/
structure Request where
  method : String
  path : String
  query : String
  headers : Headers
  body : Bytes
  deriving Repr, Inhabited

namespace Request

/-- The first value of a header. -/
def header? (request : Request) (name : String) : Option String := request.headers.getAnyCase? name

/-- A character of a path in a URL: those that end a path are escaped. -/
def escapeChar (c : Char) : List Char :=
  if c = '?' then "%3F".toList else if c = '#' then "%23".toList else [c]

/-- The path in a URL. -/
def escapePath (path : String) : String := String.ofList (path.toList.flatMap escapeChar)

/-- The host of a request that names none. -/
def ownHost : String := "testserver"

/-- The host that the request names, with or without a port. -/
def host (request : Request) : String :=
  ((request.header? "host").filter fun host => Url.isAuthority host.toList).getD ownHost

/-- The URL that leads to a path on the host of the request, with the request's query. -/
def urlOf (request : Request) (path : String) : String :=
  "http://" ++ request.host ++ escapePath path
    ++ (if request.query.isEmpty then "" else "?" ++ request.query)

/-- The URL of the request. -/
def url (request : Request) : String := request.urlOf request.path

end Request

end MediaDepot.Http
