import MediaDepot.Text.Charset.JisGrid
import MediaDepot.Text.Charset.JisPlanes
import MediaDepot.Text.Charset.JisSupplement

/-!
# Japanese charsets

Japanese has a grid and a supplement, and a later standard has two planes, the first of which
extends the grid. One kind of charset shifts the rows into pairs that leave room for a second
alphabet of single bytes, another marks the supplement or the second plane by a byte in front.

* `shifted?` — the row and the column of a shifted pair.
* `readShiftJis`, `readCp932`, `readEucJp` — the charsets of the grid.
* `firstPlane?`, `secondPlane?` — the planes.
* `readShiftedPlanes`, `readEucPlanes` — the charsets of the planes.
-/

namespace MediaDepot.Text

/-- The narrow letter of a single byte. -/
def narrow? (b : Nat) : Option Char :=
  if 0xA1 ≤ b ∧ b ≤ 0xDF then some (Char.ofNat (0xFF61 + (b - 0xA1))) else none

/-- The row and the column of a shifted pair, both counted from zero. -/
def shifted? (first second : Nat) : Option (Nat × Nat) := do
  let lead ←
    if 0x81 ≤ first ∧ first ≤ 0x9F then some (first - 0x81)
    else if 0xE0 ≤ first ∧ first ≤ 0xFC then some (first - 0xC1)
    else none
  let trail ←
    if 0x40 ≤ second ∧ second ≤ 0x7E then some (second - 0x40)
    else if 0x80 ≤ second ∧ second ≤ 0xFC then some (second - 0x41)
    else none
  return (2 * lead + trail / 94, trail % 94)

/-- Reads a single byte or a shifted pair. -/
def readShifted (single? : Nat → Option Char) (get? : Nat → Nat → Option (List Char)) : Reader Unit
  | _, a :: rest =>
    match single? a.toNat with
    | some c => some ([c], 1, ())
    | none => do
      let (row, column) ← shifted? a.toNat ((rest.head?.map UInt8.toNat).getD 0)
      let cs ← get? row column
      return (cs, 2, ())
  | _, [] => none

/-- ASCII and the narrow letters. -/
def asciiOrNarrow? (b : Nat) : Option Char := if b < 128 then some (Char.ofNat b) else narrow? b

/-- Reads shifted JIS. -/
def readShiftJis : Reader Unit :=
  readShifted asciiOrNarrow? fun row column => (jisGrid.get? row column).map ([·])

/-- The single bytes of the numbered page. -/
def cp932Single? (b : Nat) : Option Char :=
  if b = 0x80 then some '\x80'
  else if b = 0xA0 then some '\uf8f0'
  else if 0xFD ≤ b then some (Char.ofNat (0xF8F1 + (b - 0xFD)))
  else asciiOrNarrow? b

/-- The characters in which the numbered page differs from the grid, by row and column, and those
of a row that the grid leaves empty. -/
def cp932Runs : List Run := [
  ⟨0, 32, "～∥"⟩, ⟨0, 60, "－"⟩, ⟨0, 80, "￠￡"⟩, ⟨1, 43, "￢"⟩,
  ⟨12, 0,
    "①②③④⑤⑥⑦⑧⑨⑩⑪⑫⑬⑭⑮⑯⑰⑱⑲⑳ⅠⅡⅢⅣⅤⅥⅦⅧⅨⅩ ㍉㌔㌢㍍㌘㌧㌃㌶㍑㍗㌍㌦㌣㌫㍊㌻" ++
    "㎜㎝㎞㎎㎏㏄㎡        ㍻〝〟№㏍℡㊤㊥㊦㊧㊨㈱㈲㈹㍾㍽㍼≒≡∫∮∑√⊥∠∟⊿∵∩∪"⟩]

/-- The characters of the numbered page for Japanese, by row and column. -/
def cp932? (row column : Nat) : Option Char :=
  if 94 ≤ row ∧ row < 114 then some (Char.ofNat (0xE000 + (row - 94) * 94 + column))
  else if 114 ≤ row then addedGrid.get? (row - 114) column
  else if 88 ≤ row then selectedGrid.get? (row - 88) column
  else (inRuns? cp932Runs row column).or (jisGrid.get? row column)

/-- Reads the numbered page for Japanese. -/
def readCp932 : Reader Unit :=
  readShifted cp932Single? fun row column => (cp932? row column).map ([·])

/-- The pairs of JIS X 0208 in a charset without a shift, and narrow letters after their mark. -/
def eucJp? (first second : Nat) : Option Char :=
  if first = 0x8E then narrow? second
  else if 0xA1 ≤ first ∧ 0xA1 ≤ second then jisGrid.get? (first - 0xA1) (second - 0xA1)
  else none

/-- Reads a byte, a pair or a pair of the supplement after its mark. -/
def readEucJp : Reader Unit
  | _, 0x8F :: a :: b :: _ =>
    if 0xA1 ≤ a ∧ 0xA1 ≤ b then
      (supplementGrid.get? (a.toNat - 0xA1) (b.toNat - 0xA1)).map fun c => ([c], 3, ())
    else none
  | _, bytes => readPair eucJp? () bytes

/-! ## Two planes -/

/-- The editions of the planes. -/
inductive Edition where
  | first
  | second
  deriving DecidableEq

/-- The letters with a mark of their own in the first plane: a row, a column and the letters from
there on. -/
def markedLetters : List (Nat × Nat × List String) := [
  (3, 86, ["か\u309a", "き\u309a", "く\u309a", "け\u309a", "こ\u309a"]),
  (4, 86, ["カ\u309a", "キ\u309a", "ク\u309a", "ケ\u309a", "コ\u309a", "セ\u309a", "ツ\u309a", "ト\u309a"]),
  (5, 87, ["ㇷ\u309a"]), (10, 35, ["æ\u0300"]),
  (10, 39, ["ɔ\u0300", "ɔ\u0301", "ʌ\u0300", "ʌ\u0301", "ə\u0300", "ə\u0301", "ɚ\u0300",
    "ɚ\u0301"]),
  (10, 68, ["˩˥", "˥˩"])]

/-- The letter with a mark of its own in a row and a column. -/
def markedLetter? (row column : Nat) : Option (List Char) :=
  markedLetters.findSome? fun (r, start, letters) =>
    if r = row ∧ start ≤ column then (letters[column - start]?).map String.toList else none

/-- The places in the first plane that the first edition leaves empty. -/
def laterPlaces : List (Nat × Nat) := [
  (13, 0), (14, 93), (46, 51), (46, 93), (83, 6), (93, 89), (93, 90), (93, 91), (93, 92), (93, 93)]

/-- The characters of the first plane. -/
def firstPlane? (edition : Edition) (row column : Nat) : Option (List Char) :=
  if edition = .first ∧ laterPlaces.contains (row, column) then none
  else (markedLetter? row column).or
    (((jisGrid.get? row column).or (firstPlaneGrid.get? row column)).map ([·]))

/-- The characters of the second plane, one of which the second edition replaced by its variant. -/
def secondPlane? (edition : Edition) (row column : Nat) : Option Char :=
  if edition = .first ∧ row = 92 ∧
    column = 26 then some '\u9b1d' else secondPlaneGrid.get? row column

/-- The rows of the second plane in the order in which shifted pairs reach them. -/
def secondPlaneRows : List Nat :=
  [0, 7, 2, 3, 4, 11, 12, 13, 14] ++ (List.range 17).map (77 + ·)

/-- The two characters of ASCII that single bytes do not write stand in place of their wide
forms. -/
def narrowed (c : Char) : Char := if c = '＼' then '\\' else if c = '～' then '~' else c

/-- The characters of shifted pairs: the first plane and behind it the second. -/
def shiftedPlanes? (edition : Edition) (row column : Nat) : Option (List Char) :=
  if row < 94 then (firstPlane? edition row column).map fun cs => cs.map narrowed
  else do
    let row ← secondPlaneRows[row - 94]?
    let c ← secondPlane? edition row column
    return [c]

/-- ASCII but for two characters. -/
def romanLetter (b : Nat) : Char :=
  if b = 0x5C then '¥' else if b = 0x7E then '‾' else Char.ofNat b

/-- The single bytes besides the shifted pairs of two planes. -/
def romanOrNarrow? (b : Nat) : Option Char := if b < 128 then some (romanLetter b) else narrow? b

/-- Reads the two planes as shifted pairs. -/
def readShiftedPlanes (edition : Edition) : Reader Unit :=
  readShifted romanOrNarrow? (shiftedPlanes? edition)

/-- The pairs of the first plane in a charset without a shift, and narrow letters after their
mark. -/
def eucPlane? (edition : Edition) (first second : Nat) : Option (List Char) :=
  if first = 0x8E then (narrow? second).map ([·])
  else if 0xA1 ≤ first ∧ 0xA1 ≤ second then firstPlane? edition (first - 0xA1) (second - 0xA1)
  else none

/-- Reads a byte, a pair of the first plane or after its mark a pair of the second, whose rows
without characters are those of the supplement. -/
def readEucPlanes (edition : Edition) : Reader Unit
  | _, 0x8F :: a :: b :: _ =>
    if 0xA1 ≤ a ∧ 0xA1 ≤ b then
      let row := a.toNat - 0xA1
      let column := b.toNat - 0xA1
      ((secondPlane? edition row column).or (supplementGrid.get? row column)).map
        fun c => ([c], 3, ())
    else none
  | _, bytes => readPairs (eucPlane? edition) () bytes

end MediaDepot.Text
