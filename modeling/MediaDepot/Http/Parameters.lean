import MediaDepot.Text.Blank
import MediaDepot.Text.Case
import MediaDepot.Text.Pieces

/-!
# Parameters of header values

A header value may be followed by parameters, each a name and a value after a semicolon. A value may
be quoted; a semicolon inside quotes does not end it. Spaces and tabs around a part do not count,
while any other blank character does.

* `Parameters.of` — the value itself, in small letters, and its parameters.
* `Parameters.unquoted` — a parameter's value without its quotes.
-/

namespace MediaDepot.Http

/-- A header value and its parameters. -/
structure Parameters where
  main : String
  parameters : List (String × String)
  deriving DecidableEq, Repr

namespace Parameters

open Text

/-- The parts between semicolons. `inside` says whether quotes are open, `part` holds the current
part in reverse order. A quote after a backslash neither opens nor closes. -/
def partsFrom (inside : Bool) (part : List Char) : List Char → List (List Char)
  | [] => [part.reverse]
  | c :: rest =>
    if c = ';' ∧ inside = false then part.reverse :: partsFrom false [] rest
    else
      let isQuote := c = '"' ∧ part.head? ≠ some '\\'
      partsFrom (if isQuote then !inside else inside) (c :: part) rest

/-- With the backslash in front of every such character taken away. -/
def unescape (escaped : Char) : List Char → List Char
  | c :: d :: rest =>
    if c = '\\' ∧ d = escaped then d :: unescape escaped rest else c :: unescape escaped (d :: rest)
  | cs => cs

/-- Without the quotes around it. -/
def unquoted (cs : List Char) : List Char :=
  match cs with
  | '"' :: rest =>
    if rest.getLast? = some '"' then unescape '"' (unescape '\\' rest.dropLast) else cs
  | _ => cs

/-- A text without spaces and tabs at its ends. -/
def trimmed (cs : List Char) : List Char := stripEnds (fun c => c == ' ' || c == '\t') cs

/-- The name and the value of a parameter. A name is taken in small letters if a value is given;
without one it stays as it is, and the value is empty. -/
def parameter (part : List Char) : String × String :=
  match cut '=' part with
  | (name, some value) =>
    (lower (String.ofList (trimmed name)), String.ofList (unquoted (trimmed value)))
  | (name, none) => (String.ofList (trimmed name), "")

/-- The value itself and its parameters. -/
def of (value : String) : Parameters :=
  match partsFrom false [] value.toList with
  | [] => ⟨"", []⟩
  | main :: more => ⟨lower (String.ofList (trimmed main)), more.map parameter⟩

/-- The value of a parameter; of several, the last. -/
def get? (parameters : Parameters) (name : String) : Option String :=
  parameters.parameters.reverse.lookup name

end Parameters

end MediaDepot.Http
