import MediaDepot.Text.Pieces

/-!
# Paths

A path is a list of names. Empty names and single points are left out when a path is read; double
points stay, since what they mean depends on the folders.

* `FilePath.ofText`, `FilePath.text` — reading and writing.
* `FilePath.name` — the last name of a path.
* `FilePath.child`, `FilePath.join` — the path of a name, or of what a text spells, in a folder.
-/

namespace MediaDepot

open Text

/-- The path of a file or folder. -/
structure FilePath where
  /-- The slashes that it begins with: none if it does not begin at the root of the file system. -/
  slashes : Nat
  parts : List String
  deriving DecidableEq, Repr, Inhabited

namespace FilePath

/-- The slashes that a path keeps at its beginning: two stay two, and more than two are one. -/
def leadingSlashes (cs : List Char) : Nat :=
  match (cs.takeWhile (· == '/')).length with
  | _ + 3 => 1
  | n => n

/-- The path written in a text. -/
def ofText (text : String) : FilePath where
  slashes := leadingSlashes text.toList
  parts :=
    ((pieces '/' text.toList).filter fun part => part != [] && part != ['.']).map String.ofList

/-- The text of a path. -/
def text (path : FilePath) : String :=
  match path.slashes, path.parts with
  | 0, [] => "."
  | n, parts => String.ofList (List.replicate n '/') ++ "/".intercalate parts

/-- The last name of a path; that of a root, and of the folder where a path begins, is empty. -/
def name (path : FilePath) : String := path.parts.getLast?.getD ""

/-- The path of a name in a folder. -/
def child (folder : FilePath) (name : String) : FilePath :=
  { folder with parts := folder.parts ++ [name] }

/-- The path that a text spells, from a folder on. One that begins at the root stays what it is. -/
def join (folder : FilePath) (text : String) : FilePath :=
  let path := ofText text
  if path.slashes = 0 then { folder with parts := folder.parts ++ path.parts } else path

/-- The folder that a path is in. -/
def parent (path : FilePath) : FilePath := { path with parts := path.parts.dropLast }

/-- Does the path hold a NUL? -/
def holdsNul (path : FilePath) : Bool := path.parts.any fun part => part.toList.contains '\x00'

end FilePath

end MediaDepot
