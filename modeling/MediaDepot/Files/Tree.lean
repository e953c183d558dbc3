import MediaDepot.Fault
import MediaDepot.Files.Path

/-!
# File trees

Folders and files of a file system. Every entry stands at the list of names that leads to it from
the root. Paths begin at one of the folders, the top, unless they begin at the root.

* `FileTree.find?` — what stands at a place; `find?_put` and `find?_erase` say what the two changes
  do to it.
* `FileTree.resolve` — the place that a path leads to.
* `FileTree.read`, `makeFile`, `remove`, `makeFolders` — the operations, with their faults.
* `FileTree.listing` — what stands in the top.
-/

namespace MediaDepot

/-- A folder or a file. -/
inductive Entry where
  | folder
  | file (content : Bytes)
  deriving DecidableEq, Repr, Inhabited

/-- A place in a tree: the names that lead to it from the root. -/
abbrev Place := List String

/-- Folders and files. -/
structure FileTree where
  entries : List (Place × Entry) := []
  deriving Repr, Inhabited

namespace FileTree

/-- The folder at which paths begin. -/
def top : Place := ["tmp", "site"]

/-- Is it the top or a folder above it? These are always there. -/
def isFixed (place : Place) : Bool := place.isPrefixOf top

/-- What stands at a place. -/
def find? (tree : FileTree) (place : Place) : Option Entry :=
  if isFixed place then some .folder else tree.entries.lookup place

/-- Puts an entry at a place. -/
def put (tree : FileTree) (place : Place) (entry : Entry) : FileTree :=
  ⟨(place, entry) :: tree.entries.filter fun e => e.1 != place⟩

/-- Takes the entry at a place away. -/
def erase (tree : FileTree) (place : Place) : FileTree :=
  ⟨tree.entries.filter fun e => e.1 != place⟩

/-- Takes the entry at a place away, and everything in it. -/
def eraseAll (tree : FileTree) (place : Place) : FileTree :=
  ⟨tree.entries.filter fun e => !place.isPrefixOf e.1⟩

/-- The longest name of an entry, in bytes. -/
def maxName : Nat := 255

/-- The longest path, in bytes. -/
def maxPath : Nat := 4095

/-- The place of a name in a folder. Double points lead to the folder above, which for the root is
the root itself. -/
def step (place : Place) (name : String) : Except PathFault Place :=
  if name = ".." then .ok place.dropLast
  else if maxName < name.utf8ByteSize then .error .nameTooLong
  else .ok (place ++ [name])

/-- Follows names from a place. Whatever is passed on the way must be a folder. -/
def follow (tree : FileTree) (place : Place) : List String → Except PathFault Place
  | [] => .ok place
  | name :: rest =>
    match tree.find? place with
    | some .folder => (step place name).bind fun next => tree.follow next rest
    | some (.file _) => .error .notFolder
    | none => .error .missing

/-- The place that a path leads to, whether or not something stands there. -/
def resolve (tree : FileTree) (path : FilePath) : Except PathFault Place :=
  if maxPath < path.text.utf8ByteSize then .error .nameTooLong
  else tree.follow (if path.slashes = 0 then top else []) path.parts

/-- A fault of a path together with the path. -/
def atPath {α : Type} (path : FilePath) : Except PathFault α → Except Fault α
  | .ok a => .ok a
  | .error fault => .error (.path fault path.text)

/-- Goes to the place that a path leads to; a path with a NUL leads nowhere. -/
def visit {α : Type} (tree : FileTree) (path : FilePath) (act : Place → Except PathFault α) :
    Except Fault α :=
  if path.holdsNul then .error (.value .nulInPath)
  else atPath path ((tree.resolve path).bind act)

/-- The content of a file. -/
def read (tree : FileTree) (path : FilePath) : Except Fault Bytes :=
  tree.visit path fun place =>
    match tree.find? place with
    | some (.file content) => .ok content
    | some .folder => .error .isFolder
    | none => .error .missing

/-- Opens a file for writing: an empty file stands there afterwards. The result is its place. -/
def openNew (tree : FileTree) (path : FilePath) : Except Fault (Place × FileTree) :=
  tree.visit path fun place =>
    match tree.find? place with
    | some .folder => .error .isFolder
    | _ => .ok (place, tree.put place (.file []))

/-- Deletes a file. -/
def remove (tree : FileTree) (path : FilePath) : Except Fault FileTree :=
  tree.visit path fun place =>
    match tree.find? place with
    | some (.file _) => .ok (tree.erase place)
    | some .folder => .error .isFolder
    | none => .error .missing

/-- Makes one folder. -/
def makeFolder (tree : FileTree) (path : FilePath) : Except Fault FileTree :=
  tree.visit path fun place =>
    match tree.find? place with
    | some _ => .error .exists
    | none => .ok (tree.put place .folder)

/-- Is the entry that a path leads to a file? Only a name that is too long is a fault; a path with a
NUL names no file. -/
def isFile (tree : FileTree) (path : FilePath) : Except Fault Bool :=
  if path.holdsNul then .ok false
  else match tree.resolve path with
    | .ok place =>
      match tree.find? place with
      | some (.file _) => .ok true
      | _ => .ok false
    | .error .nameTooLong => .error (.path .nameTooLong path.text)
    | .error _ => .ok false

/-- Does the path lead to a folder? -/
def isFolder (tree : FileTree) (path : FilePath) : Bool :=
  match tree.resolve path with
  | .ok place => tree.find? place == some .folder
  | .error _ => false

/-- The tree after a change, and how the change ended. -/
abbrev Change := FileTree × Except Fault Unit

/-- A change that is done as a whole or not at all. -/
def change (tree : FileTree) : Except Fault FileTree → Change
  | .ok tree => (tree, .ok ())
  | .error fault => (tree, .error fault)

/-- Makes a folder; one that is there already is no fault. -/
def makeFolderOnce (tree : FileTree) (path : FilePath) : Change :=
  match tree.makeFolder path with
  | .ok tree => (tree, .ok ())
  | .error fault => (tree, if tree.isFolder path then .ok () else .error fault)

/-- Makes a folder; `above` makes the one that it is in, if that is missing. -/
def makeFolderIn (tree : FileTree) (path : FilePath) (above : FileTree → Change) : Change :=
  match tree.makeFolder path with
  | .error (.path .missing _) =>
    match above tree with
    | (tree, .ok _) => tree.makeFolderOnce path
    | stopped => stopped
  | _ => tree.makeFolderOnce path

/-- Makes the folder of the first `n` parts of a path and those above it, as far as they are not
there. -/
def makeFirst (path : FilePath) : (n : Nat) → FileTree → Change
  | 0, tree =>
    let start : FilePath := { path with parts := [] }
    tree.makeFolderIn start fun tree => (tree, .error (.path .missing start.text))
  | n + 1, tree =>
    tree.makeFolderIn { path with parts := path.parts.take (n + 1) } (makeFirst path n)

/-- Makes a folder and those above it, as far as they are not there. Those made before a fault
stay. -/
def makeFolders (tree : FileTree) (path : FilePath) : Change :=
  makeFirst path path.parts.length tree

/-- Makes a file with a content, and the folders above it as far as they are not there. -/
def makeFile (tree : FileTree) (path : FilePath) (content : Bytes) : Change :=
  match tree.makeFolders path.parent with
  | (tree, .ok _) =>
    tree.change <| (tree.openNew path).map fun (place, tree) => tree.put place (.file content)
  | stopped => stopped

/-- Deletes a file, or a folder with everything in it. -/
def removeAll (tree : FileTree) (path : FilePath) : Except Fault FileTree :=
  tree.visit path fun place =>
    match tree.find? place with
    | some _ => .ok (tree.eraseAll place)
    | none => .error .missing

/-- What a line of the listing says of an entry: its names below the top, with a slash behind a
folder. Nothing is said of what is not in the top. -/
def line? (entry : Place × Entry) : Option (String × Entry) :=
  if top.isPrefixOf entry.1 then
    let text := "/".intercalate (entry.1.drop top.length)
    some (if entry.2 = .folder then text ++ "/" else text, entry.2)
  else none

/-- What stands in the top, in the order of the texts. -/
def listing (tree : FileTree) : List (String × Entry) :=
  (tree.entries.filterMap line?).mergeSort fun a b => decide (a.1 ≤ b.1)

theorem lookup_filter_ne (entries : List (Place × Entry)) (place other : Place) :
    (entries.filter fun e => e.1 != place).lookup other =
      if other = place then none else entries.lookup other := by
  induction entries with
  | nil => simp
  | cons e rest ih =>
    obtain ⟨at_, entry⟩ := e
    by_cases he : at_ = place
    · subst he
      by_cases hp : other = at_
      · simpa [hp] using ih
      · have hb : (other == at_) = false := by simpa using hp
        simpa [List.lookup_cons, hb, hp] using ih
    · by_cases hp : other = at_
      · subst hp
        simp [he]
      · have hb : (other == at_) = false := by simpa using hp
        simpa [List.lookup_cons, he, hb] using ih

theorem find?_put (tree : FileTree) {place : Place} (entry : Entry) (other : Place)
    (h : isFixed place = false) :
    (tree.put place entry).find? other =
      if other = place then some entry else tree.find? other := by
  by_cases hp : other = place
  · simp [find?, put, hp, h]
  · have hb : (other == place) = false := by simpa using hp
    simp [find?, put, hp, List.lookup_cons, hb, lookup_filter_ne]

theorem find?_erase (tree : FileTree) {place : Place} (other : Place) (h : isFixed place = false) :
    (tree.erase place).find? other = if other = place then none else tree.find? other := by
  by_cases hp : other = place
  · simp [find?, erase, hp, h, lookup_filter_ne]
  · simp [find?, erase, hp, lookup_filter_ne]

end FileTree

end MediaDepot
