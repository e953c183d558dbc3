import MediaDepot.Config.Checked
import MediaDepot.Record

/-!
# Records as documents

How a record is written as a document and read back. Reading takes every field that has the form it
should have, whatever else the document holds.

* `Record.toDocument`, `Record.ofDocument` — there and back; `ofDocument_toDocument` says that
  nothing is lost.
-/

namespace MediaDepot

namespace Record

/-- The record as a document. -/
def toDocument (r : Record) : Fields := [
  ("_id", .str r.id),
  ("user", Json.ofOption r.user),
  ("mime_type", .str r.mimeType),
  ("location", .str r.location),
  ("etag", .str r.etag),
  ("status", .str r.status.text),
  ("size", .int r.size),
  ("created_at", .int r.createdAt),
  ("updated_at", .int r.updatedAt)]

/-- A text or null. -/
def textOrNothing : Json → Except Misfit (Option String)
  | .null => .ok none
  | value => (Lax.text value).map some

/-- A status. -/
def statusOf : Json → Except Misfit Status
  | .str s =>
    match Status.ofText? s with
    | some status => .ok status
    | none => .error .choice
  | _ => .error .choice

/-- The identifier stands in the field of the document's key, or else in a field of its own. -/
def identifierOf (fields : Fields) : Checked String :=
  match fields.get? "_id", fields.get? "id" with
  | none, some value =>
    match Lax.text value with
    | .ok id => .sound id
    | .error misfit => .faulty [⟨some "id", none, misfit⟩]
  | _, _ => Checked.required fields "_id" Lax.text

/-- The record that a document holds. -/
def check (fields : Fields) : Checked Record :=
  (fun id user mimeType location etag status size createdAt updatedAt =>
      (⟨id, mimeType, user, location, etag, status, size, createdAt, updatedAt⟩ : Record))
    <$> identifierOf fields
    <*> Checked.optional fields "user" none textOrNothing
    <*> Checked.required fields "mime_type" Lax.text
    <*> Checked.optional fields "location" "" Lax.text
    <*> Checked.optional fields "etag" "" Lax.text
    <*> Checked.optional fields "status" .pending statusOf
    <*> Checked.optional fields "size" 0 Lax.whole
    <*> Checked.required fields "created_at" Lax.whole
    <*> Checked.required fields "updated_at" Lax.whole

/-- The record that a document holds, or all faults of the document. -/
def ofDocument (fields : Fields) : Except Fault Record :=
  match check fields with
  | .sound record => .ok record
  | .faulty faults => .error (.document faults)

theorem statusOf_text (s : Status) : statusOf (.str s.text) = .ok s := by
  cases s <;> rfl

theorem textOrNothing_ofOption (u : Option String) : textOrNothing (Json.ofOption u) = .ok u := by
  cases u <;> rfl

/-- What is written is read back. -/
theorem ofDocument_toDocument (r : Record) : ofDocument r.toDocument = .ok r := by
  obtain ⟨id, mimeType, user, location, etag, status, size, createdAt, updatedAt⟩ := r
  simp [ofDocument, check, toDocument, identifierOf, Checked.optional, Checked.required,
    Fields.get?, List.lookup_cons, statusOf_text, textOrNothing_ofOption, Lax.text, Lax.whole,
      Functor.map, Seq.seq,
    Checked.apply]

end Record

end MediaDepot
