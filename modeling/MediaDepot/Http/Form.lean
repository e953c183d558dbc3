import MediaDepot.Http.Multipart
import MediaDepot.Http.Request
import MediaDepot.Url.Query

/-!
# Forms

The body of a request may be a form: parts between boundaries, or names and values as in a query.
Any other body counts as a form without parts.

* `Form.parts` — the parts of a form, in order.
* `Form.last?` — the last part of a name.
-/

namespace MediaDepot.Http.Form

open Text

/-- A field of a form in the manner of a query. -/
def queryPart (name value : List Char) : Part :=
  ⟨.ofString (Query.decode name), .text (.ofString (Query.decode value))⟩

/-- The parts for fields, of which `left` may still come. -/
def queryPartsFrom : (left : Nat) → List (List Char) → Except FormFault (List Part)
  | _, [] => .ok []
  | 0, _ :: _ => .error .tooManyTexts
  | left + 1, field :: rest =>
    let (name, value) := cut '=' field
    let value := value.getD []
    if name.length + value.length > maxTextBytes then .error .largeField
    else (queryPartsFrom left rest).map (queryPart name value :: ·)

/-- The parts of a form in the manner of a query. -/
def queryParts (body : Bytes) : Except FormFault (List Part) :=
  queryPartsFrom maxParts ((pieces '&' (ofLatin1 body).toList).filter fun field => !field.isEmpty)

/-- The parts of the form that the body of a request is. -/
def parts (request : Request) : Except FormFault (List Part) :=
  let type := Parameters.of ((request.header? "content-type").getD "")
  if type.main = "multipart/form-data" then
    match type.get? "boundary" with
    | some boundary =>
      let charset := Charset.ofName? ((type.get? "charset").getD "utf-8")
      Multipart.read charset ((latin1? boundary).getD []) request.body
    | none => .error .noBoundary
  else if type.main = "application/x-www-form-urlencoded" then queryParts request.body
  else .ok []

/-- The last part of a name. -/
def last? (parts : List Part) (name : String) : Option Part :=
  parts.reverse.find? fun part => part.name == LooseText.ofString name

end MediaDepot.Http.Form
