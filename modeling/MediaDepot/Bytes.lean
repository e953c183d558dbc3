/-!
# Byte strings

Contents of files and objects, bodies of requests and responses. A byte string is the list of its
bytes, so that reading by pieces is `take` and `drop`. Its hexadecimal text is two small digits a
byte.
-/

namespace MediaDepot

/-- A string of bytes. -/
abbrev Bytes := List UInt8

namespace Bytes

/-- The small hexadecimal digit of a number below sixteen. -/
def hexDigit (n : Nat) : Char :=
  if n < 10 then Char.ofNat (48 + n) else Char.ofNat (87 + n)

/-- The value of a hexadecimal digit in either case. -/
def hexValue? (c : Char) : Option Nat :=
  if '0' ≤ c ∧ c ≤ '9' then some (c.toNat - 48)
  else if 'a' ≤ c ∧ c ≤ 'f' then some (c.toNat - 87)
  else if 'A' ≤ c ∧ c ≤ 'F' then some (c.toNat - 55)
  else none

/-- The two hexadecimal digits of a byte. -/
def hexPair (b : UInt8) : List Char := [hexDigit (b.toNat / 16), hexDigit (b.toNat % 16)]

/-- The hexadecimal text of a byte string. -/
def toHex (bytes : Bytes) : String := String.ofList (bytes.flatMap hexPair)

/-- The byte string written as pairs of hexadecimal digits. -/
def ofHexDigits? : List Char → Option Bytes
  | [] => some []
  | [_] => none
  | h :: l :: rest => do
    let high ← hexValue? h
    let low ← hexValue? l
    let tail ← ofHexDigits? rest
    return UInt8.ofNat (16 * high + low) :: tail

/-- The byte string with the given hexadecimal text. -/
def ofHex? (s : String) : Option Bytes := ofHexDigits? s.toList

end Bytes

end MediaDepot
