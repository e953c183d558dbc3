import MediaDepot.Number.Binary64

/-!
# Document values

The values of configuration documents, record documents and bodies of responses. Whole numbers are
unbounded and apart from numbers with a fraction or an exponent. The fields of an object keep the
order in which they were first given.

* `Json.get?` — a field of an object.
* `Fields.put` — a field given again keeps its place and takes the new value.
* `Json.without` — the value without the fields of certain names, wherever they stand.
* `Json.isTruthy` — false for null, zero, empty text and empty containers.
-/

namespace MediaDepot

/-- A document value. -/
inductive Json where
  | null
  | bool (b : Bool)
  | int (n : Int)
  | float (x : Number.Binary64)
  | str (s : String)
  | arr (items : List Json)
  | obj (fields : List (String × Json))
  deriving Inhabited, Repr, BEq

/-- The fields of an object. -/
abbrev Fields := List (String × Json)

namespace Fields

/-- The value of a field. -/
def get? (fields : Fields) (name : String) : Option Json := fields.lookup name

/-- Gives a field its value: in its old place if there is one, else at the end. -/
def put (fields : Fields) (name : String) (value : Json) : Fields :=
  match fields with
  | [] => [(name, value)]
  | (n, v) :: rest => if n = name then (n, value) :: rest else (n, v) :: put rest name value

/-- Gives several fields their values, one after the other. -/
def putAll (fields more : Fields) : Fields := more.foldl (fun fs f => put fs f.1 f.2) fields

theorem get?_put (fields : Fields) (name : String) (value : Json) (other : String) :
    (fields.put name value).get? other =
      if other = name then some value else fields.get? other := by
  induction fields with
  | nil =>
    by_cases h : other = name
    · subst h; simp [put, get?]
    · have : (other == name) = false := by simpa using h
      simp [put, get?, List.lookup_cons, h, this]
  | cons field rest ih =>
    obtain ⟨n, v⟩ := field
    simp only [get?] at ih
    by_cases h : n = name
    · subst h
      by_cases ho : other = n
      · subst ho; simp [put, get?]
      · have : (other == n) = false := by simpa using ho
        simp [put, get?, List.lookup_cons, ho, this]
    · by_cases ho : other = n
      · subst ho; simp [put, get?, h]
      · have : (other == n) = false := by simpa using ho
        simp [put, get?, List.lookup_cons, h, this, ih]

end Fields

namespace Json

/-- A field of an object; anything else has none. -/
def get? : Json → String → Option Json
  | .obj fields, name => Fields.get? fields name
  | _, _ => none

/-- The text that the value is. -/
def str? : Json → Option String
  | .str s => some s
  | _ => none

/-- The whole number that the value is. -/
def int? : Json → Option Int
  | .int n => some n
  | _ => none

/-- What messages call values of this kind. -/
def kindName : Json → String
  | .null => "NoneType"
  | .bool _ => "bool"
  | .int _ => "int"
  | .float _ => "float"
  | .str _ => "str"
  | .arr _ => "list"
  | .obj _ => "dict"

/-- Is the value neither null nor false, zero or empty? -/
def isTruthy : Json → Bool
  | .null => false
  | .bool b => b
  | .int n => n != 0
  | .float x => !x.isZero
  | .str s => !s.isEmpty
  | .arr items => !items.isEmpty
  | .obj fields => !fields.isEmpty

mutual

/-- The value without the fields of such names, at any depth. -/
def without (leftOut : String → Bool) : Json → Json
  | .arr items => .arr (withoutInItems leftOut items)
  | .obj fields => .obj (withoutInFields leftOut fields)
  | value => value

/-- The items without the fields of such names. -/
def withoutInItems (leftOut : String → Bool) : List Json → List Json
  | [] => []
  | item :: rest => item.without leftOut :: withoutInItems leftOut rest

/-- The fields but for those of such names, and without such fields inside. -/
def withoutInFields (leftOut : String → Bool) : List (String × Json) → List (String × Json)
  | [] => []
  | (name, value) :: rest =>
    if leftOut name then withoutInFields leftOut rest
    else (name, value.without leftOut) :: withoutInFields leftOut rest

end

/-- The text, or null where there is none. -/
def ofOption : Option String → Json
  | some s => .str s
  | none => .null

end Json

end MediaDepot
