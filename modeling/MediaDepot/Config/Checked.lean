import MediaDepot.Fault
import MediaDepot.Number.Integer

/-!
# Reading fields of documents

A document is read field by field, and every field that does not have the form it should have is
reported, in the order in which the fields are read.

* `Checked` — a value, or all the faults found on the way to it. What comes out of the parts of a
  document is sound if every part is (`seq_eq_sound_iff`, `map_eq_sound_iff`).
* `Lax.text`, `Lax.truth`, `Lax.whole`, `Lax.texts` — what a field may look like. Numbers and truth
  values may be given in several spellings; a text must be a text.
-/

namespace MediaDepot

open Number

/-- A value, or what keeps it from being read. -/
inductive Checked (α : Type) where
  | sound (value : α)
  | faulty (faults : List FieldFault)
  deriving Repr

namespace Checked

/-- Applies a function that may itself be missing; the faults of both sides are kept. -/
def apply {α β : Type} : Checked (α → β) → Checked α → Checked β
  | .sound f, .sound a => .sound (f a)
  | .sound _, .faulty faults => .faulty faults
  | .faulty faults, .sound _ => .faulty faults
  | .faulty faults, .faulty more => .faulty (faults ++ more)

instance : Applicative Checked where
  pure := .sound
  seq f a := apply f (a ())

/-- The value, or the faults as an error. -/
def toExcept {α : Type} : Checked α → Except (List FieldFault) α
  | .sound value => .ok value
  | .faulty faults => .error faults

/-- A field that has a default. -/
def optional {α : Type} (fields : Fields) (name : String) (default : α)
    (read : Json → Except Misfit α) : Checked α :=
  match fields.get? name with
  | none => .sound default
  | some value =>
    match read value with
    | .ok value => .sound value
    | .error misfit => .faulty [⟨some name, none, misfit⟩]

/-- A field that must be there. -/
def required {α : Type} (fields : Fields) (name : String) (read : Json → Except Misfit α) :
    Checked α :=
  match fields.get? name with
  | none => .faulty [⟨some name, none, .missing⟩]
  | some value =>
    match read value with
    | .ok value => .sound value
    | .error misfit => .faulty [⟨some name, none, misfit⟩]

variable {α β : Type}

/-- A function is applied if neither side has a fault. -/
theorem seq_eq_sound_iff {f : Checked (α → β)} {x : Checked α} {b : β} :
    f <*> x = .sound b ↔ ∃ g, f = .sound g ∧ ∃ a, x = .sound a ∧ g a = b := by
  cases f <;> cases x <;> simp [Seq.seq, apply]

theorem map_eq_sound_iff {f : α → β} {x : Checked α} {b : β} :
    f <$> x = .sound b ↔ ∃ a, x = .sound a ∧ f a = b := by
  cases x <;> simp [Functor.map, apply]

/-- A field with a default takes it just if it is not there. -/
theorem optional_eq_sound_iff {fields : Fields} {name : String} {default a : α}
    {read : Json → Except Misfit α} :
    optional fields name default read = .sound a ↔
      fields.get? name = none ∧ default = a ∨ ∃ value, fields.get? name = some value ∧
        read value = .ok a := by
  unfold optional
  rcases fields.get? name with _ | value
  · simp
  · rcases hread : read value with misfit | b <;> simp [hread]

end Checked

namespace Lax

/-- A text. -/
def text : Json → Except Misfit String
  | .str s => .ok s
  | _ => .error .text

/-- The words that say no, in small letters. -/
def falseWords : List String := ["0", "f", "n", "no", "off", "false"]

/-- The words that say yes, in small letters. -/
def trueWords : List String := ["1", "t", "y", "yes", "on", "true"]

/-- True or false for one or zero. -/
def truthOfInt (n : Int) : Except Misfit Bool :=
  if n = 0 then .ok false
  else if n = 1 then .ok true
  else if fitsWord n then .error .truthWord
  else .error .truth

/-- A truth value, as such, as a number or as a word. -/
def truth : Json → Except Misfit Bool
  | .bool b => .ok b
  | .int n => truthOfInt n
  | .float x =>
    match x.truncate with
    | some n => if x.isWhole && n.natAbs ≤ wordMax then truthOfInt n else .error .truth
    | none => .error .truth
  | .str s =>
    let word := String.ofList (s.toList.map Char.toLower)
    if falseWords.contains word then .ok false
    else if trueWords.contains word then .ok true
    else .error .truthWord
  | _ => .error .truth

/-- A whole number, as such, as a truth value, as a number without a fraction or as a text. -/
def whole : Json → Except Misfit Int
  | .int n => .ok n
  | .bool b => .ok (if b then 1 else 0)
  | .float x =>
    match x.truncate with
    | none => .error .endless
    | some n =>
      if !x.isWhole then .error .fraction
      else if n.natAbs ≤ wordMax then .ok n
      else .error .wholeSize
  | .str s =>
    match ofDocumentText s with
    | .ok n => .ok n
    | .error .malformed => .error .wholeText
    | .error .tooLong => .error .wholeSize
  | _ => .error .whole

/-- The texts of a list that begins at place `i` of the field, or a fault for every item that is no
text. -/
def textsFrom (name : String) (i : Nat) : List Json → Checked (List String)
  | [] => .sound []
  | item :: rest =>
    let first : Checked String :=
      match text item with
      | .ok s => .sound s
      | .error misfit => .faulty [⟨some name, some i, misfit⟩]
    List.cons <$> first <*> textsFrom name (i + 1) rest

/-- A list of texts. What counts as nothing is the empty list. -/
def texts (name : String) (value : Json) : Checked (List String) :=
  if value.isTruthy then
    match value with
    | .arr items => textsFrom name 0 items
    | _ => .faulty [⟨some name, none, .list⟩]
  else .sound []

/-- A text in whose place a default stands if nothing is given. -/
def textOr (default : String) (value : Json) : Except Misfit String :=
  if value.isTruthy then text value else .ok default

/-- A text, empty if null is given. -/
def textOrNull : Json → Except Misfit String
  | .null => .ok ""
  | value => text value

end Lax

end MediaDepot
