import MediaDepot.Bytes
import MediaDepot.Text.Name.Aliases
import MediaDepot.Text.Name.Ancient
import MediaDepot.Text.Name.Letters
import MediaDepot.Text.Name.Notations
import MediaDepot.Text.Name.Scripts
import MediaDepot.Text.Name.Syllables
import MediaDepot.Text.Name.Symbols

/-!
# Names of characters

Every character has a name in capital letters. Most names stand in tables; those of Korean syllables
are composed of the names of their sounds, and those of Chinese characters are numbers.

* `named?` — the character of a name. In the tables, small letters count as capital ones.
-/

namespace MediaDepot.Text

/-- All runs of names. -/
def nameRuns : List (List NameRun) :=
  [letterNames, syllableNames, symbolNames, scriptNames, ancientNames, notationNames, aliasNames]

/-- The number in hexadecimal digits, of which those beyond 9 are capital letters. -/
def capitalHex? (cs : List Char) : Option Nat :=
  if cs.any Char.isLower then none
  else cs.foldlM (fun n c => (Bytes.hexValue? c).map (16 * n + ·)) 0

/-- Characters whose names end in their number: the beginning of the names and the ranges. -/
def numberedNames : List (String × Nat × Nat) := [
  ("CJK COMPATIBILITY IDEOGRAPH-", 0xF900, 0xFA6D),
    ("CJK COMPATIBILITY IDEOGRAPH-", 0xFA70, 0xFAD9),
  ("CJK COMPATIBILITY IDEOGRAPH-", 0x2F800, 0x2FA1D),
  ("KHITAN SMALL SCRIPT CHARACTER-", 0x18B00, 0x18CD5), ("NUSHU CHARACTER-", 0x1B170, 0x1B2FB)]

/-- The code point of a name in capital letters that ends in a number. -/
def numbered? (name : List Char) : Option Nat :=
  numberedNames.findSome? fun (start, first, last) => do
    let digits ← dropPrefix? start.toList name
    let code ← capitalHex? digits
    if digits.head? ≠ some '0' ∧ first ≤ code ∧ code ≤ last then some code else none

/-- The ranges of Chinese characters. -/
def ideographRanges : List (Nat × Nat) := [
  (0x3400, 0x4DBF), (0x4E00, 0x9FFF), (0x20000, 0x2A6DF), (0x2A700, 0x2B738), (0x2B740, 0x2B81D),
  (0x2B820, 0x2CEA1), (0x2CEB0, 0x2EBE0), (0x30000, 0x3134A)]

/-- The code point of the name of a Chinese character, which ends in four or five digits. -/
def namedIdeograph? (name : List Char) : Option Nat := do
  let digits ← dropPrefix? "CJK UNIFIED IDEOGRAPH-".toList name
  let code ← capitalHex? digits
  let isOne := ideographRanges.any fun (first, last) => first ≤ code && code ≤ last
  if (digits.length = 4 ∨ digits.length = 5) ∧ isOne then some code else none

/-- The names of the sounds with which Korean syllables begin. -/
def openingNames : List String :=
  ["G", "GG", "N", "D", "DD", "R", "M", "B", "BB", "S", "SS", "", "J", "JJ", "C", "K", "T",
    "P", "H"]

/-- The names of the sounds in the middle of Korean syllables. -/
def middleNames : List String :=
  ["A", "AE", "YA", "YAE", "EO", "E", "YEO", "YE", "O", "WA", "WAE", "OE", "YO", "U", "WEO", "WE",
    "WI", "YU", "EU", "YI", "I"]

/-- The names of the sounds with which Korean syllables end, the first of which is none. -/
def closingNames : List String :=
  ["", "G", "GG", "GS", "N", "NJ", "NH", "D", "L", "LG", "LM", "LB", "LS", "LT", "LP", "LH", "M",
    "B", "BS", "S", "SS", "NG", "J", "C", "K", "T", "P", "H"]

/-- What the first of some names leaves of a text that begins with it, in `use`. -/
def afterName? {α : Type} (names : List String) (cs : List Char)
    (use : Nat → List Char → Option α) : Option α :=
  names.zipIdx.findSome? fun (name, i) => (dropPrefix? name.toList cs).bind (use i)

/-- The code point of the name of a Korean syllable. -/
def namedSyllable? (name : List Char) : Option Nat := do
  let sounds ← dropPrefix? "HANGUL SYLLABLE ".toList name
  afterName? openingNames sounds fun first rest =>
    afterName? middleNames rest fun middle rest =>
      afterName? closingNames rest fun last rest =>
        if rest.isEmpty then some (0xAC00 + (first * 21 + middle) * 28 + last) else none

/-- The character of a name. -/
def named? (name : List Char) : Option Char :=
  let capital := name.map Char.toUpper
  let code := (namedSyllable? name).or <| (namedIdeograph? name).or <| (numbered? capital).or <|
    nameRuns.findSome? fun runs => runs.findSome? fun run => run.find? capital
  code.map Char.ofNat

end MediaDepot.Text
