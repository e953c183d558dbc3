import MediaDepot.Handler.Basic

/-!
# Services

The work that is done for users and by the clock, on top of a handler and the records.

* `Service.upload` — takes a new file: its row is pending while the content comes in, and ready or
  failed afterwards.
* `Service.sweep` — removes the rows of uploads that were left unfinished, and then their objects.
-/

namespace MediaDepot

/-- What the user learns of a new file. -/
structure Receipt where
  id : String
  url : String
  size : Nat
  mimeType : String
  deriving DecidableEq, Repr, Inhabited

/-- The receipt as a document. -/
def Receipt.toJson (receipt : Receipt) : Json := .obj [
  ("id", .str receipt.id), ("url", .str receipt.url), ("size", .int receipt.size),
  ("mime_type", .str receipt.mimeType)]

namespace Service

open MediaDepot.Action

/-- The media type of a file of which none is known. -/
def unknownType : String := "application/octet-stream"

/-- The media type of a file; an empty one counts as unknown. -/
def typeOf : Option String → String
  | some mimeType => if mimeType.isEmpty then unknownType else mimeType
  | none => unknownType

/-- Draws a new identifier. -/
def drawUid : Action Uid := do
  let depot ← get
  let (uid, lot) := Uid.draw depot.site.lot
  set { depot with site := { depot.site with lot } }
  ofValue uid

/-- The record of a new file. -/
def newRecord (uid : Uid) (mimeType user : Option String) : Record where
  id := uid.text
  mimeType := typeOf mimeType
  user

/-- What is left to do when the content has come in, or has not: the row is settled. -/
def settle (transfer : Transfer) : Action Receipt := do
  let record := transfer.record
  match transfer.outcome with
  | .error failure =>
    let _ ← RecordStore.finish record false 0
    throw failure
  | .ok uploaded =>
    let _ ← RecordStore.finish record true uploaded.size
    return ⟨record.id, uploaded.url, uploaded.size, record.mimeType⟩

/-- Takes a new file. -/
def upload (handler : Handler) (source : Source) (mimeType user : Option String) :
    Action Receipt := do
  let uid ← drawUid
  let transfer ← (handler.upload (newRecord uid mimeType user) source : StateM Depot Transfer)
  settle transfer

/-- Removes the rows of at most `size` uploads that were left unfinished for longer than `age`
seconds, and then their objects. The result is their number. -/
def sweep (handler : Handler) (size age : Int) : Action Nat := do
  let now ← epoch
  let locations ← RecordStore.removeStale (now - age) size
  if locations.isEmpty then return 0
  handler.delete locations
  say .info ("garbage collected " ++ toString locations.length ++ " stale upload(s)")
  return locations.length

end Service

end MediaDepot
