import MediaDepot.Bytes

/-!
# Grids of characters

In the charsets of East Asia most characters are pairs of bytes: the first byte chooses a row and
the second a column.

* `Grid` — characters in rows and columns.
* `Run` — characters beside a grid, or in place of those in it.
* `Reader`, `readAll` — texts read one character after the other.
-/

namespace MediaDepot.Text

/-- Characters in rows of one length. A space stands for none. -/
structure Grid where
  width : Nat
  cells : Array Char

namespace Grid

/-- The grid of these rows, which may leave out what is none at their end. -/
def ofRows (width : Nat) (rows : List String) : Grid :=
  ⟨width, (rows.flatMap fun row =>
    row.toList ++ List.replicate (width - row.length) ' ').toArray⟩

/-- The character in a row and a column, both counted from zero. -/
def get? (grid : Grid) (row column : Nat) : Option Char :=
  if column < grid.width then (grid.cells[row * grid.width + column]?).filter (· != ' ') else none

/-- The characters of a range of numbers that are not in the grid, in order. -/
def missing (grid : Grid) (first count : Nat) : List Char :=
  let present := grid.cells.foldl
    (fun present c =>
      if first ≤ c.toNat then present.setIfInBounds (c.toNat - first) true else present)
    (Array.replicate count false)
  ((List.range count).filter fun i => !present.getD i false).map fun i => Char.ofNat (first + i)

end Grid

/-- Characters that follow one another in a row, from a column on. A charset counts its rows and
columns as its pairs of bytes do, or from zero as its grid does. A space stands for none. -/
structure Run where
  row : Nat
  column : Nat
  characters : String

/-- The character of a row and a column in the first run that has it. -/
def inRuns? (runs : List Run) (row column : Nat) : Option Char :=
  runs.findSome? fun run =>
    if run.row = row ∧ run.column ≤ column then
      (run.characters.toList[column - run.column]?).filter (· != ' ')
    else none

/-- Reads the beginning of bytes: the characters found there, the number of their bytes and the
state after them. -/
abbrev Reader (σ : Type) := σ → Bytes → Option (List Char × Nat × σ)

/-- The characters of all bytes and the state after them. Every step takes a byte at least, so
`fuel` bounds their number. -/
def readFrom {σ : Type} (read : Reader σ) (state : σ) :
    (fuel : Nat) → Bytes → Option (List Char × σ)
  | _, [] => some ([], state)
  | 0, _ => none
  | fuel + 1, bytes => do
    let (characters, taken, state) ← read state bytes
    let (more, state) ← readFrom read state fuel (bytes.drop taken)
    return (characters ++ more, state)

/-- The characters of all bytes and the state after them. -/
def readThrough {σ : Type} (read : Reader σ) (state : σ) (bytes : Bytes) : Option (List Char × σ) :=
  readFrom read state bytes.length bytes

/-- The characters of all bytes. -/
def readAll {σ : Type} (read : Reader σ) (state : σ) (bytes : Bytes) : Option (List Char) :=
  (readThrough read state bytes).map (·.1)

/-- Reads a byte of ASCII or a pair of bytes, which may stand for more than one character. -/
def readPairs (pair? : Nat → Nat → Option (List Char)) : Reader Unit
  | _, a :: rest =>
    if a < 128 then some ([Char.ofNat a.toNat], 1, ())
    else match rest with
      | b :: _ => (pair? a.toNat b.toNat).map fun cs => (cs, 2, ())
      | [] => none
  | _, [] => none

/-- Reads a byte of ASCII or a pair of bytes that stands for one character. -/
def readPair (pair? : Nat → Nat → Option Char) : Reader Unit :=
  readPairs fun first second => (pair? first second).map ([·])

end MediaDepot.Text
