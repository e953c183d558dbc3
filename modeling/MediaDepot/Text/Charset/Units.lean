import MediaDepot.Bytes
import MediaDepot.Text.Loose

/-!
# Charsets of wide units

The charsets in which a character takes one or two units of two bytes, or one unit of four.

* `looseUnits` — the characters of units of two bytes, and the halves among them.
* `utf16?`, `utf32?` — the characters of bytes in an order that is known or told by a mark.
-/

namespace MediaDepot.Text

/-- The order of the bytes of a unit. -/
inductive ByteOrder where
  | little
  | big
  /-- The order that a mark at the beginning tells, and `little` without a mark. -/
  | marked

/-- The number that bytes are, the highest first if `big`. -/
def unit (big : Bool) (bytes : Bytes) : Nat :=
  (if big then bytes else bytes.reverse).foldl (fun n b => 256 * n + b.toNat) 0

/-- The units of two bytes each. -/
def units16? (big : Bool) : Bytes → Option (List Nat)
  | [] => some []
  | a :: b :: rest => (units16? big rest).map (unit big [a, b] :: ·)
  | _ => none

/-- The units of four bytes each. -/
def units32? (big : Bool) : Bytes → Option (List Nat)
  | [] => some []
  | a :: b :: c :: d :: rest => (units32? big rest).map (unit big [a, b, c, d] :: ·)
  | _ => none

/-- Is the unit the first half of a character? -/
def isFirstHalf (unit : Nat) : Bool := 0xD800 ≤ unit && unit ≤ 0xDBFF

/-- Is the unit the second half of a character? -/
def isSecondHalf (unit : Nat) : Bool := 0xDC00 ≤ unit && unit ≤ 0xDFFF

/-- The character of a number that is one. -/
def character? (code : Nat) : Option Char :=
  if code.isValidChar then some (Char.ofNat code) else none

/-- The characters of units of two bytes: a first half and a second half make one, and others stand
alone. -/
def looseUnits : List Nat → LooseText
  | [] => []
  | [u] => [.ofCode u]
  | u :: v :: rest =>
    if isFirstHalf u && isSecondHalf v then
      .ofCode (0x10000 + (u - 0xD800) * 0x400 + (v - 0xDC00)) :: looseUnits rest
    else .ofCode u :: looseUnits (v :: rest)

/-- Whether the highest byte comes first, and the bytes without a mark. -/
def ordered (order : ByteOrder) (littleMark bytes : Bytes) : Bool × Bytes :=
  match order with
  | .little => (false, bytes)
  | .big => (true, bytes)
  | .marked =>
    if littleMark.isPrefixOf bytes then (false, bytes.drop littleMark.length)
    else if littleMark.reverse.isPrefixOf bytes then (true, bytes.drop littleMark.length)
    else (false, bytes)

/-- The characters of units of two bytes. -/
def utf16? (order : ByteOrder) (bytes : Bytes) : Option (List Char) :=
  let (big, bytes) := ordered order [0xFF, 0xFE] bytes
  (units16? big bytes).bind fun units => (looseUnits units).mapM LooseChar.char?

/-- The characters of units of four bytes. -/
def utf32? (order : ByteOrder) (bytes : Bytes) : Option (List Char) :=
  let (big, bytes) := ordered order [0xFF, 0xFE, 0, 0] bytes
  (units32? big bytes).bind (·.mapM character?)

end MediaDepot.Text
