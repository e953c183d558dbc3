import MediaDepot.Files.Tree
import MediaDepot.Site.Call
import MediaDepot.Site.ObjectStore
import MediaDepot.Stream
import MediaDepot.Uid.Draw

/-!
# The site

Everything outside the library that its work depends on or changes: the clock, the numbers to be
drawn, the files, the object store, and the notes of calls and of log lines.

* `Site.epoch` — the time in whole seconds, toward zero.
* `ask` — calls the object store.
* `sign`, `putObject`, `headObject`, `deleteObjects` — its operations on objects.
-/

namespace MediaDepot

/-- What the work of the library depends on or changes. -/
structure Site where
  /-- The time in seconds. -/
  now : Rat := 1000
  lot : Lot := {}
  files : FileTree := {}
  objects : ObjectStore := {}
  calls : List Call := []
  log : List LogLine := []
  deriving Inhabited

namespace Site

/-- The time in whole seconds, toward zero. -/
def epoch (site : Site) : Int := site.now.num.tdiv site.now.den

/-- Notes a call. -/
def note (call : Call) : StateM Site Unit :=
  modify fun site => { site with calls := site.calls ++ [call] }

/-- Writes a line to the log. -/
def say (level : Level) (text : String) : StateM Site Unit :=
  modify fun site => { site with log := site.log ++ [⟨level, text⟩] }

/-- What the object store does at the next call of an operation. -/
def next (operation : Operation) : StateM Site (Option Behaviour) :=
  modifyGet fun site =>
    let (behaviour, objects) := site.objects.take operation
    (behaviour, { site with objects })

/-- The answer of a call, `usual` being what the object store answers of itself. -/
def answerOf (usual : Json) : Option Behaviour → Except Fault Json
  | some (.fail fault) => .error fault
  | some (.reply answer) => .ok answer
  | _ => .ok usual

/-- Calls the object store. -/
def ask (operation : Operation) (call : Call) (usual : Json) : StateM Site (Except Fault Json) := do
  note call
  return answerOf usual (← next operation)

/-- Has a URL signed. -/
def sign (link : Link) : StateM Site (Except Fault Json) :=
  ask .sign (.sign link) <| .str <|
    "https://signed.example/" ++ link.bucket ++ "/" ++ link.key ++ "?op=" ++ link.operation

/-- The size of the pieces in which the object store reads a body if nothing else is laid down. -/
def usualPiece : Int := 65536

/-- The size of the pieces in which the object store reads a body. -/
def pieceOf : Option Behaviour → Int
  | some (.pieces size) => size
  | _ => usualPiece

/-- Has a body stored, reading it to its end. The result is the number of bytes read. -/
def putObject (bucket key cacheControl contentType : String) (source : Source) :
    StateM Site (Except Fault Nat) := do
  match ← next .putObject with
  | some (.fail fault) =>
    note (.putObject bucket key cacheControl contentType none)
    return .error fault
  | behaviour =>
    let (body, fault, reader) := (Counter.of source).drain (pieceOf behaviour)
    match fault with
    | some fault =>
      note (.putObject bucket key cacheControl contentType none)
      return .error fault
    | none =>
      note (.putObject bucket key cacheControl contentType (some body))
      modify fun site => { site with objects := site.objects.put key body }
      return .ok reader.count

/-- Asks what is known of an object. -/
def headObject (bucket key : String) : StateM Site (Except Fault Json) := do
  let site ← get
  let usual : Fields :=
    match site.objects.etag? key with
    | some etag => [("ETag", .str etag)]
    | none => []
  ask .headObject (.headObject bucket key) (.obj usual)

/-- The keys that the answer to a deletion names. -/
def refusedKeys (answer : Json) : List String :=
  match answer.get? "Errors" with
  | some (.arr items) => items.filterMap fun item => (item.get? "Key").bind Json.str?
  | _ => []

/-- Has objects deleted. Those that the answer names stay. -/
def deleteObjects (bucket : String) (keys : List String) : StateM Site (Except Fault Json) := do
  let result ← ask .deleteObjects (.deleteObjects bucket keys) (.obj [])
  match result with
  | .ok answer =>
    let gone := keys.filter fun key => !(refusedKeys answer).contains key
    modify fun site => { site with objects := site.objects.erase gone }
  | .error _ => pure ()
  return result

end Site

end MediaDepot
