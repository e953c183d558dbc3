import MediaDepot.Fault
import MediaDepot.Record

/-!
# Records in memory

Rows with different identifiers, in the order in which they came. A row comes with the start of an
upload, is settled at its end, and goes when the upload has been left unfinished for too long.

* `Memory.get?`, `start`, `finish`, `removeStale` — the operations.
* `firstOf` — the beginning of a list; a negative limit leaves out as many at its end.
-/

namespace MediaDepot

/-- The first `limit` items; a negative limit leaves out as many at the end. -/
def firstOf {α : Type} (limit : Int) (items : List α) : List α :=
  if 0 ≤ limit then items.take limit.toNat else items.take (items.length - limit.natAbs)

/-- Rows in the order in which they came. -/
structure Memory where
  rows : List Record := []
  deriving DecidableEq, Repr, Inhabited

namespace Memory

/-- The row with an identifier. -/
def get? (memory : Memory) (id : String) : Option Record :=
  memory.rows.find? fun row => row.id == id

/-- Adds the row of an upload that starts. -/
def start (memory : Memory) (record : Record) : Except ValueFault Memory :=
  if (memory.get? record.id).isSome then .error (.recordExists record.id)
  else .ok ⟨memory.rows ++ [record]⟩

/-- Settles the row of an upload that has come to its end, if the row is still there. -/
def finish (memory : Memory) (now : Int) (record : Record) (success : Bool) (size : Int) :
    Memory × Option Record :=
  let settle (row : Record) : Record :=
    if row.id = record.id then row.settled now record success size else row
  let after : Memory := ⟨memory.rows.map settle⟩
  (after, after.get? record.id)

/-- The rows of unfinished uploads to be removed. -/
def stale (memory : Memory) (olderThan limit : Int) : List Record :=
  firstOf limit (memory.rows.filter fun row => row.isStale olderThan)

/-- Removes rows. -/
def remove (memory : Memory) (ids : List String) : Memory :=
  ⟨memory.rows.filter fun row => !ids.contains row.id⟩

/-- Removes the rows of unfinished uploads; the result says where their objects are. -/
def removeStale (memory : Memory) (olderThan limit : Int) : Memory × List String :=
  let stale := memory.stale olderThan limit
  (memory.remove (stale.map (·.id)), stale.map (·.staleLocation))

end Memory

end MediaDepot
