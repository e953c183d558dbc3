import MediaDepot.Json.Basic
import MediaDepot.Number.Shortest
import MediaDepot.Text.Quoted

/-!
# Writing documents

Two texts of a document value.

* `Json.render` — the compact document: no blanks, characters beyond ASCII as they are.
* `Json.display` — the text shown inside a message: a text stands for itself, but is quoted inside a
  container.
-/

namespace MediaDepot.Json

/-- A character of a text in a document. -/
def renderChar (c : Char) : List Char :=
  match c with
  | '"' => ['\\', '"']
  | '\\' => ['\\', '\\']
  | '\n' => ['\\', 'n']
  | '\r' => ['\\', 'r']
  | '\t' => ['\\', 't']
  | '\x08' => ['\\', 'b']
  | '\x0c' => ['\\', 'f']
  | c => if c.toNat < 32 then '\\' :: 'u' :: Text.hexDigits 4 c.toNat else [c]

/-- A text in a document. -/
def renderText (s : String) : String :=
  String.ofList ('"' :: (s.toList.flatMap renderChar ++ ['"']))

/-- The words of documents for numbers without digits. -/
def documentWords : Number.Words := ⟨"NaN", "Infinity"⟩

/-- The words of messages for numbers without digits. -/
def messageWords : Number.Words := ⟨"nan", "inf"⟩

mutual

/-- The compact document. -/
def render : Json → String
  | .null => "null"
  | .bool b => if b then "true" else "false"
  | .int n => toString n
  | .float x => x.toText documentWords
  | .str s => renderText s
  | .arr items => "[" ++ ",".intercalate (renderItems items) ++ "]"
  | .obj fields => "\x7b" ++ ",".intercalate (renderFields fields) ++ "\x7d"

/-- The documents of the items of a list. -/
def renderItems : List Json → List String
  | [] => []
  | item :: rest => render item :: renderItems rest

/-- The fields of an object. -/
def renderFields : List (String × Json) → List String
  | [] => []
  | (name, value) :: rest => (renderText name ++ ":" ++ render value) :: renderFields rest

end

mutual

/-- The value as it is shown inside a container. -/
def displayInner : Json → String
  | .null => "None"
  | .bool b => if b then "True" else "False"
  | .int n => toString n
  | .float x => x.toText messageWords
  | .str s => Text.quoted s
  | .arr items => "[" ++ ", ".intercalate (displayItems items) ++ "]"
  | .obj fields => "\x7b" ++ ", ".intercalate (displayFields fields) ++ "\x7d"

/-- The items of a list as they are shown. -/
def displayItems : List Json → List String
  | [] => []
  | item :: rest => displayInner item :: displayItems rest

/-- The fields of an object as they are shown. -/
def displayFields : List (String × Json) → List String
  | [] => []
  | (name, value) :: rest => (Text.quoted name ++ ": " ++ displayInner value) :: displayFields rest

end

/-- The value as it is shown inside a message. -/
def display : Json → String
  | .str s => s
  | value => displayInner value

end MediaDepot.Json
