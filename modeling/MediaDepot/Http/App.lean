import MediaDepot.Http.Envelope
import MediaDepot.Http.Form
import MediaDepot.Program

/-!
# The application

Answers requests: files are served and taken, and the state of the program is told. Every answer
carries the id of its request, and every error is put into an envelope; only requests that no route
takes are refused in the framework's own form.

* `Route.ofPath?` — the route of a path.
* `App.serve`, `App.take`, `App.health` — the routes.
* `App.answer` — the answer to a request; unexpected faults end here.
-/

namespace MediaDepot.Http

open Program

/-- What a path leads to. -/
inductive Route where
  | serve
  | take
  | health
  deriving DecidableEq, Repr, Inhabited

namespace Route

/-- The path under which files are served. -/
def servePath : String := "/v0/file/s/"

/-- The path at which files are taken. -/
def takePath : String := "/v0/file/u/"

/-- The path at which the state of the program is told. -/
def healthPath : String := "/health"

/-- The route of a path. One line end may follow it. -/
def ofPath? (path : String) : Option Route :=
  match Text.dropPrefix? servePath.toList path.toList with
  | some name => if name.isEmpty || name.contains '/' then none else some .serve
  | none =>
    if path = takePath ∨ path = takePath ++ "\n" then some .take
    else if path = healthPath ∨ path = healthPath ++ "\n" then some .health
    else none

/-- The methods of a route. -/
def methods : Route → List String
  | .serve => ["GET", "HEAD", "OPTIONS"]
  | .take => ["POST"]
  | .health => ["GET"]

/-- The path with a slash at its end, or without the ones that are there. -/
def otherSlash (path : String) : String :=
  if path.endsWith "/" then String.ofList (path.toList.reverse.dropWhile (· == '/')).reverse
  else path ++ "/"

end Route

/-- Why a route gives no response. -/
inductive Trouble where
  /-- The form in the request cannot be read. -/
  | unreadable (fault : FormFault)
  /-- There is no file in the request. -/
  | fileMissing
  /-- There is a text in the place of the file. -/
  | fileIsText (text : LooseText)
  /-- The file in the request is empty. -/
  | fileEmpty (name : LooseText)
  /-- The work failed. -/
  | failed (failure : Failure)
  deriving Repr, Inhabited

/-- Work on a request. -/
abbrev Step (α : Type) := ExceptT Trouble (StateM Program) α

/-- The answer to a request, and the fault that nobody expected, if there was one. -/
structure Answer where
  response : Response
  raised : Option Fault
  deriving Inhabited

namespace App

/-- Work of the program as work on a request. -/
def ofWork {α : Type} (work : Work α) : Step α :=
  ExceptT.mk do return (← work.run).mapError .failed

/-- What was made, or the failure for a fault. -/
def ofMade {α : Type} : Except Fault α → Step α
  | .ok a => pure a
  | .error fault => throw (.failed (.fault fault))

/-- Where the client is sent. -/
def locationHeader : Option Json → Except Fault Headers
  | none => .ok []
  | some (.str url) => .ok [("Location", url)]
  | some value => .error (.noAttribute value.kindName "encode")

/-- The headers of a result. -/
def resultHeaders (result : HeaderResult) : Except Fault Headers :=
  (locationHeader result.target).map (· ++ result.headers)

/-- The response that brings the content of a file, or only its headers. -/
def contentResponse (method : String) (headers : Headers) (download : Download) :
    Except Fault Response :=
  if method = "HEAD" then
    let length := ("Content-Length", toString download.record.size)
    Response.whole? 200 (headers ++ [length]) (some download.record.mimeType) []
  else Response.streamed? 200 headers (some download.record.mimeType) download.content

/-- Serves a file. -/
def serve (request : Request) : Step Response := do
  let asked : FileRequest := ⟨request.method, request.url, request.headers.inSmallLetters, true⟩
  let result ← ofWork (useVault fun handler => handler.headers asked)
  if result.status ≠ 0 then
    ofMade ((resultHeaders result).bind fun headers =>
      Response.whole? (result.status : Nat) headers none [])
  else
    let download ← ofWork (useVault fun handler => handler.download request.url)
    ofMade (contentResponse request.method result.headers download)

/-- The name of the part that holds a file to be taken. -/
def filePart : String := "file"

/-- The place of the file in a request. -/
def filePlace : Json := .arr [.str "body", .str filePart]

/-- What is said of a request without a file. -/
def missingDetails : Json := .arr [.obj [
  ("type", .str "missing"), ("loc", filePlace), ("msg", .str "Field required"), ("input", .null)]]

/-- What is said of a request with a text in the place of a file. -/
def textDetails (text : String) : Json := .arr [.obj [
  ("type", .str "value_error"), ("loc", filePlace),
  ("msg", .str "Value error, Expected UploadFile, received: <class 'str'>"), ("input", .str text),
  ("ctx", .obj [("error", .obj [])])]]

/-- The file in a request. An empty text counts as missing, and so does an empty file without a
name. -/
def fileOf (request : Request) : Except Trouble (LooseText × Option String × Bytes) :=
  match Form.parts request with
  | .error fault => .error (.unreadable fault)
  | .ok parts =>
    match (Form.last? parts filePart).map Part.value with
    | none => .error .fileMissing
    | some (.text text) => .error (if text.isEmpty then .fileMissing else .fileIsText text)
    | some (.file name type content) =>
      if name.isEmpty && content.isEmpty then .error .fileMissing
      else .ok (name, type, content)

/-- The media type that says nothing of the content. -/
def plainType : String := "application/octet-stream"

/-- The media type of a file: the given one, unless it says nothing and the name says more. -/
def typeOf (name : String) (given : Option String) : Option String :=
  let type := given.getD ""
  if type.isEmpty || type == plainType then (Mime.ofFileName? name).or given else given

/-- Takes a file. -/
def take (request : Request) (requestId : String) : Step Response := do
  let (name, given, content) ← ExceptT.mk (pure (fileOf request))
  if content.isEmpty then throw (.fileEmpty name)
  let user := request.header? "x-user-id"
  let receipt ← ofWork (upload (.ofBytes content) (typeOf name.shown given) user)
  ofMade ((Outcome.value receipt.toJson).respond? "File uploaded" 201 (some requestId))

/-- The state of the program. -/
def healthDocument (vault : Vault) (program : Program) : Json := .obj [
  ("status", .str "healthy"),
  ("media_handler", .str vault.handler.backend.name),
  ("gc_scheduler", .str (if program.sweeper.isSome then "running" else "stopped"))]

/-- Tells the state of the program. -/
def health : Step Response := do
  let vault ← ofWork vault
  ofMade (Response.document? 200 [] (healthDocument vault (← get)))

/-- A refusal in the framework's own form. -/
def plainRefusal (status : Int) (detail : String) (headers : Headers) : Except Fault Response :=
  Response.document? status headers (.obj [("detail", .str detail)])

/-- The characters that stand unescaped in a URL to which a client is sent. -/
def staysInUrl (c : Char) : Bool :=
  c.isAlphanum || "_.-~:/%#?=@[]!$&'()*+,;".toList.contains c

/-- A URL to which a client is sent. -/
def escapeUrl (url : String) : String :=
  String.ofList <| url.toList.flatMap fun c =>
    if staysInUrl c then [c]
    else (Text.utf8 (String.singleton c)).flatMap fun b => '%' :: (Bytes.hexPair b).map Char.toUpper

/-- The answer to a request for a path without a route: the client is sent on if a slash more or
less makes the difference. -/
def unrouted (request : Request) : Except Fault Response :=
  let other := Route.otherSlash request.path
  if request.path ≠ "/" ∧ (Route.ofPath? other).isSome then
    Response.whole? 307 [("location", escapeUrl (request.urlOf other))] none []
  else plainRefusal 404 (phrase 404) []

/-- What the route of a request gives. -/
def dispatch (request : Request) (requestId : String) : Step Response :=
  match Route.ofPath? request.path with
  | none => ofMade (unrouted request)
  | some route =>
    if !route.methods.contains request.method then
      ofMade (plainRefusal 405 (phrase 405) [("allow", ", ".intercalate route.methods)])
    else match route with
      | .serve => serve request
      | .take => take request requestId
      | .health => health

/-- The beginning that two byte strings have in common. -/
def commonBeginning : Bytes → Bytes → Bytes
  | a :: as, b :: bs => if a = b then a :: commonBeginning as bs else []
  | _, _ => []

/-- A response with a loose text in it. It cannot be written if halves stand in the text; where the
first one would stand is where two responses begin to differ that have different signs for it. -/
def looseResponse? (respond? : String → Except Fault Response) (text : LooseText) :
    Except Fault Response :=
  match text.text?, text.halves with
  | none, code :: more => do
    let one ← respond? (text.shownWith 'a')
    let other ← respond? (text.shownWith 'b')
    let first := (Text.readUtf8 none (commonBeginning one.body other.body)).length
    throw (.loneHalf code first (first + more.length))
  | _, _ => respond? text.shown

/-- A refusal of a request that does not have the form it should have. -/
def invalid? (requestId : String) (details : Json) : Except Fault Response :=
  errorResponse? 422 "Validation error"
    (errorData (.str ErrorCode.validationFailed.text) details) [] (some requestId)

/-- The refusal of an empty file. -/
def emptyUpload (name : String) : RequestError :=
  .uploadInvalid "Empty upload" (.obj [("file_name", .str name)])

/-- The response to a request in trouble, unless it comes from an unexpected fault. -/
def troubleResponse (requestId : String) : Trouble → Except Fault Response
  | .unreadable fault => plainRefusal 400 fault.message []
  | .fileMissing => invalid? requestId missingDetails
  | .fileIsText text => looseResponse? (fun text => invalid? requestId (textDetails text)) text
  | .fileEmpty name =>
    looseResponse? (fun name => (emptyUpload name).respond? (some requestId)) name
  | .failed (.media error) => (RequestError.ofMedia error).respond? (some requestId)
  | .failed (.fault fault) => .error fault

/-- The text of an unexpected fault, as far as it may be shown. -/
def shownDetails (settings : Settings) (fault : Fault) : Json :=
  if settings.mayShowDetails then .str fault.message else .null

/-- The response to an unexpected fault. -/
def lastResort (settings : Settings) (requestId : String) (fault : Fault) : Response :=
  let document := failure "Internal Server Error"
    (errorData (.str ErrorCode.internalError.text) (shownDetails settings fault)) (some requestId)
  let body := Text.utf8 document.render
  ⟨500, [("content-length", toString body.length), ("content-type", "application/json")], body⟩

/-- The response with the id of its request. -/
def withId (requestId : String) (response : Response) : Response :=
  { response with
    headers := (response.headers.filter fun h => h.1 != "x-request-id")
      ++ [("x-request-id", requestId)] }

/-- The id of a request: its own, unless that is empty, or else a new one. -/
def requestIdOf (request : Request) : StateM Program String := do
  let given := (request.header? "X-Request-ID").getD ""
  if given.isEmpty then
    modifyGet fun program =>
      let n := program.requests + 1
      ("request-" ++ toString n, { program with requests := n })
  else return given

/-- The answer that comes out of a route. -/
def conclude (settings : Settings) (requestId : String) (outcome : Except Trouble Response) :
    Answer :=
  let made : Except Fault Response := match outcome with
    | .ok response => .ok response
    | .error trouble => troubleResponse requestId trouble
  match made with
  | .ok response => ⟨withId requestId response, none⟩
  | .error fault => ⟨lastResort settings requestId fault, some fault⟩

/-- The answer to a request. -/
def respond (settings : Settings) (request : Request) : StateM Program Answer := do
  let requestId ← requestIdOf request
  return conclude settings requestId (← (dispatch request requestId).run)

/-- The answer to a request. The settings are read first. -/
def answer (request : Request) : Work Answer := do
  let settings ← getSettings
  let program ← get
  let (answer, program) := (respond settings request).run program
  set program
  return answer

end App

end MediaDepot.Http
