import MediaDepot.Mime.Guess
import MediaDepot.Uid

/-!
# File records

What is known about a file: its public identifier, its media type, and how far its upload has come.

* `Record.begun` — the record of an upload that starts now.
* `Record.staleLocation` — where the object of an unfinished upload is: the key of the identifier if
  no place was noted.
* `fileName` — the name in a URL: the identifier and the suffix of the media type.
-/

namespace MediaDepot

/-- How far an upload has come. -/
inductive Status where
  | pending
  | ready
  | failed
  deriving DecidableEq, Inhabited, Repr

namespace Status

/-- The text of a status in documents. -/
def text : Status → String
  | .pending => "pending"
  | .ready => "ready"
  | .failed => "failed"

/-- The status with the given text. -/
def ofText? : String → Option Status
  | "pending" => some .pending
  | "ready" => some .ready
  | "failed" => some .failed
  | _ => none

/-- Has the upload not been finished? -/
def isUnused : Status → Bool
  | .ready => false
  | _ => true

theorem ofText?_text (s : Status) : ofText? s.text = some s := by cases s <;> rfl

end Status

/-- What is known about a file. Times are whole seconds. -/
structure Record where
  id : String
  mimeType : String
  user : Option String := none
  location : String := ""
  etag : String := ""
  status : Status := .pending
  size : Int := 0
  createdAt : Int := 0
  updatedAt : Int := 0
  deriving DecidableEq, Inhabited, Repr

/-- The name of a file in a URL. -/
def fileName (id : String) (mimeType : Option String) : String :=
  id ++ (Mime.suffixOf? (mimeType.getD "")).getD ""

namespace Record

/-- The identifier that the record's text stands for. -/
def uid (r : Record) : Uid := .parse r.id

/-- The storage key of the file. -/
def key (r : Record) : String := r.uid.key

/-- The name of the file in a URL. -/
def fileName (r : Record) : String := MediaDepot.fileName r.id (some r.mimeType)

/-- The record of an upload that starts now. A time of creation that is already known stays. -/
def begun (r : Record) (now : Int) : Record :=
  { r with
    status := .pending
    createdAt := if r.createdAt = 0 then now else r.createdAt
    updatedAt := now }

/-- The row of an upload that succeeded: what the transfer found out is taken from the uploaded
record. -/
def finished (row : Record) (now : Int) (uploaded : Record) (size : Int) : Record :=
  { row with
    updatedAt := now
    status := .ready
    size
    location := uploaded.location
    etag := uploaded.etag }

/-- The row of an upload that failed. -/
def abandoned (row : Record) (now : Int) : Record :=
  { row with updatedAt := now, status := .failed, size := 0 }

/-- The row of an upload that has come to its end. -/
def settled (row : Record) (now : Int) (uploaded : Record) (success : Bool) (size : Int) : Record :=
  if success then row.finished now uploaded size else row.abandoned now

/-- Where the object of an unfinished upload is. -/
def staleLocation (r : Record) : String := if r.location.isEmpty then r.key else r.location

/-- Has the upload been left unfinished since before the given time? -/
def isStale (r : Record) (olderThan : Int) : Bool :=
  r.status.isUnused && r.updatedAt < olderThan

end Record

end MediaDepot
