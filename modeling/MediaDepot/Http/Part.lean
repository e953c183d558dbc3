import MediaDepot.Bytes
import MediaDepot.Text.Loose

/-!
# Parts of forms

A form is a row of parts, each a text or a file with a name. A form with too many or too large parts
is not read.

* `Part` — a part of a form.
* `Tally.count?` — counts the parts and refuses those beyond the limit.
* `FormFault.message` — the text of the reason why a form is not read.
-/

namespace MediaDepot.Http

/-- What a part brings. -/
inductive PartValue where
  | text (text : LooseText)
  | file (name : LooseText) (contentType : Option String) (content : Bytes)
  deriving DecidableEq, Repr, Inhabited

/-- A part of a form. -/
structure Part where
  name : LooseText
  value : PartValue
  deriving DecidableEq, Repr, Inhabited

/-- The most files and the most texts in a form. -/
def maxParts : Nat := 1000

/-- The most bytes of a text in a form. -/
def maxTextBytes : Nat := 1024 * 1024

/-- Why a form cannot be read. -/
inductive FormFault where
  /-- The request does not say what the boundary is. -/
  | noBoundary
  /-- A part has no name. -/
  | noName
  /-- A boundary or a head does not have the form it should have. -/
  | malformed
  | tooManyFiles
  | tooManyTexts
  /-- A text between boundaries is too large. -/
  | largePart
  /-- A field in the manner of a query is too large. -/
  | largeField
  /-- Reading a text breaks off. -/
  | unreadable
  deriving DecidableEq, Repr, Inhabited

/-- The text of a fault. -/
def FormFault.message : FormFault → String
  | .noBoundary => "Missing boundary in multipart."
  | .noName => "The Content-Disposition header field \"name\" must be provided."
  | .malformed => "Invalid multipart data."
  | .tooManyFiles => "Too many files. Maximum number of files is " ++ toString maxParts ++ "."
  | .tooManyTexts => "Too many fields. Maximum number of fields is " ++ toString maxParts ++ "."
  | .largePart => "Part exceeded maximum size of " ++ toString (maxTextBytes / 1024) ++ "KB."
  | .largeField => "Field exceeded maximum size of " ++ toString (maxTextBytes / 1024) ++ "KB."
  | .unreadable => "There was an error parsing the body"

/-- How many files and texts a form has brought so far. -/
structure Tally where
  files : Nat
  texts : Nat

/-- Counts a part, unless there are too many of its kind. -/
def Tally.count? (tally : Tally) (isFile : Bool) : Except FormFault Tally :=
  if isFile then
    if tally.files < maxParts then .ok { tally with files := tally.files + 1 }
    else .error .tooManyFiles
  else if tally.texts < maxParts then .ok { tally with texts := tally.texts + 1 }
  else .error .tooManyTexts

end MediaDepot.Http
