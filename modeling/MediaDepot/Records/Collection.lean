import MediaDepot.Records.Document
import MediaDepot.Records.Memory

/-!
# Collections of documents

Documents with different keys, in the order in which they came. Every operation is a single step of
the database.

* `Collection.find?`, `insert`, `update`, `stale`, `delete` — the operations.
-/

namespace MediaDepot

/-- A document with its key. -/
structure Document where
  key : Json
  fields : Fields
  deriving Repr, BEq, Inhabited

/-- Is it the document with this text as its key? -/
def Document.hasKey (document : Document) (key : String) : Bool :=
  match document.key with
  | .str s => s == key
  | _ => false

/-- Documents in the order in which they came. -/
structure Collection where
  documents : List Document := []
  deriving Repr, Inhabited

namespace Collection

/-- The fields of the document with a key. -/
def find? (collection : Collection) (key : String) : Option Fields :=
  (collection.documents.find? (·.hasKey key)).map (·.fields)

/-- Adds a document unless its key is taken. -/
def insert (collection : Collection) (key : String) (fields : Fields) : Except Fault Collection :=
  if collection.documents.any (·.hasKey key) then .error .duplicateKey
  else .ok ⟨collection.documents ++ [⟨.str key, fields⟩]⟩

/-- Puts a document in, in the place of one with the same key if there is one. -/
def replace (collection : Collection) (document : Document) : Collection :=
  if collection.documents.any (·.key == document.key) then
    ⟨collection.documents.map fun d => if d.key == document.key then document else d⟩
  else ⟨collection.documents ++ [document]⟩

/-- Gives fields of the document with a key new values, if there is such a document. -/
def update (collection : Collection) (key : String) (changes : Fields) : Collection :=
  ⟨collection.documents.map fun d =>
    if d.hasKey key then { d with fields := d.fields.putAll changes } else d⟩

/-- Has the document one of these statuses, and was it last written before the given time? -/
def isStale (statuses : List String) (olderThan : Int) (fields : Fields) : Bool :=
  match fields.get? "status", fields.get? "updated_at" with
  | some (.str status), some (.int updatedAt) => statuses.contains status && updatedAt < olderThan
  | _, _ => false

/-- The documents of unfinished uploads. -/
def stale (collection : Collection) (statuses : List String) (olderThan limit : Int) :
    List Fields :=
  firstOf limit ((collection.documents.map (·.fields)).filter (isStale statuses olderThan))

/-- Removes the documents with the given keys. -/
def delete (collection : Collection) (keys : List String) : Collection :=
  ⟨collection.documents.filter fun d => !keys.any d.hasKey⟩

end Collection

end MediaDepot
