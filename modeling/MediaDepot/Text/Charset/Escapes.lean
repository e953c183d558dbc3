import MediaDepot.Text.Loose
import MediaDepot.Text.Name

/-!
# Charsets with escapes

In these charsets a byte is the character of its number, and a backslash begins an escape: a sign of
its own, or a character by its number or its name. The number may be that of a half of a surrogate
pair.

* `escapes?` — the charset with all escapes.
* `codeEscapes?` — the charset with escapes by number only, in which other backslashes stay.
-/

namespace MediaDepot.Text

/-- What an escape stands for, and the number of its bytes. -/
abbrev Escape := LooseText × Nat

/-- The character of a byte. -/
def byteChar (b : UInt8) : Char := Char.ofNat b.toNat

/-- The number in hexadecimal digits that all the bytes are. -/
def hexNumber? (bytes : Bytes) : Option Nat :=
  bytes.foldlM (fun n b => (Bytes.hexValue? (byteChar b)).map (16 * n + ·)) 0

/-- An escape of so many hexadecimal digits. -/
def coded? (count : Nat) (bytes : Bytes) : Option Escape := do
  let digits := bytes.take count
  let code ← hexNumber? digits
  if digits.length = count ∧ code < 0x110000 then some ([.ofCode code], count) else none

/-- Is the byte an octal digit? -/
def isOctal (b : UInt8) : Bool := 0x30 ≤ b && b ≤ 0x37

/-- An escape of up to three octal digits. -/
def octal (bytes : Bytes) : Escape :=
  let digits := (bytes.take 3).takeWhile isOctal
  ([.ofCode (digits.foldl (fun n b => 8 * n + (b.toNat - 0x30)) 0)], digits.length)

/-- An escape of a name between braces. -/
def namedEscape? : Bytes → Option Escape
  | 0x7B :: rest =>
    let name := rest.takeWhile (· != 0x7D)
    if name.length < rest.length then
      (named? (name.map byteChar)).map fun c => ([.char c], name.length + 2)
    else none
  | _ => none

/-- The sign that a letter stands for. -/
def signs : List (Char × Char) := [
  ('\\', '\\'), ('\'', '\''), ('"', '"'), ('a', '\x07'), ('b', '\x08'), ('f', '\x0c'), ('n', '\n'),
  ('r', '\r'), ('t', '\t'), ('v', '\x0b')]

/-- An escape together with the byte that announces it. -/
def announced (escape : Escape) : Escape := (escape.1, escape.2 + 1)

/-- The escape after a backslash. One that is unknown stands for itself, and one of a line end for
nothing. -/
def escape? : Bytes → Option Escape
  | [] => none
  | b :: rest =>
    let c := byteChar b
    if c = '\n' then some ([], 1)
    else if c = 'x' then (coded? 2 rest).map announced
    else if c = 'u' then (coded? 4 rest).map announced
    else if c = 'U' then (coded? 8 rest).map announced
    else if c = 'N' then (namedEscape? rest).map announced
    else if isOctal b then some (octal (b :: rest))
    else match signs.lookup c with
      | some sign => some ([.char sign], 1)
      | none => some ([.char '\\', .char c], 1)

/-- The escape by number after a backslash. Any other character stays, and so does the backslash. -/
def codeEscape? : Bytes → Option Escape
  | [] => some ([.char '\\'], 0)
  | b :: rest =>
    let c := byteChar b
    if c = 'u' then (coded? 4 rest).map announced
    else if c = 'U' then (coded? 8 rest).map announced
    else some ([.char '\\', .char c], 1)

/-- The characters of bytes with escapes. Every step takes a byte at least, so `fuel` bounds their
number. -/
def unescapeFrom (escape? : Bytes → Option Escape) : (fuel : Nat) → Bytes → Option LooseText
  | _, [] => some []
  | 0, _ => none
  | fuel + 1, b :: rest =>
    if byteChar b = '\\' then do
      let (characters, taken) ← escape? rest
      return characters ++ (← unescapeFrom escape? fuel (rest.drop taken))
    else (unescapeFrom escape? fuel rest).map (.char (byteChar b) :: ·)

/-- The characters of bytes with all escapes. -/
def escapes? (bytes : Bytes) : Option LooseText := unescapeFrom escape? bytes.length bytes

/-- The characters of bytes with escapes by number. -/
def codeEscapes? (bytes : Bytes) : Option LooseText := unescapeFrom codeEscape? bytes.length bytes

end MediaDepot.Text
