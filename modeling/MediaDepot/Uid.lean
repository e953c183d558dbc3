import MediaDepot.Bytes
import MediaDepot.Number.Positional

/-!
# File identifiers

A file is named by a word of 64 bits, which has two texts. Both spell the bytes of the word, lowest
byte first.

* `Uid.text` — the public text in URLs and records: eleven letters of an alphabet of 64, and the
  empty text for zero.
* `Uid.key` — the storage key: thirteen letters of an alphabet of 32, without capital letters.
* `Uid.parse` — the identifier with a public text. Eleven letters hold 66 bits; the two lowest bits
  are not looked at. Any other text names no file and gives zero.
-/

namespace MediaDepot

/-- The identifier of a file. Zero names no file. -/
structure Uid where
  value : UInt64
  deriving DecidableEq, Inhabited, Repr

namespace Uid

open Number

/-- The identifier that names no file. -/
def zero : Uid := ⟨0⟩

/-- Does the identifier name no file? -/
def isZero (u : Uid) : Bool := u.value == 0

/-- The identifier with the given number, if that fits into 64 bits. -/
def ofInt? (n : Int) : Option Uid :=
  if 0 ≤ n ∧ n < UInt64.size then some ⟨UInt64.ofNat n.toNat⟩ else none

/-- The bytes of the identifier as numbers, the lowest first. -/
def octets (u : Uid) : List Nat := lowDigits 256 8 u.value.toNat

/-- The bytes of the identifier, the lowest first. -/
def toBytes (u : Uid) : Bytes := u.octets.map UInt8.ofNat

/-- The number whose bytes, the highest first, are those of the identifier. -/
def spelled (u : Uid) : Nat := ofLowDigits 256 u.octets.reverse

/-- The identifier that `spelled` takes to the given number. -/
def ofSpelled (n : Nat) : Uid := ⟨UInt64.ofNat (ofLowDigits 256 (lowDigits 256 8 n).reverse)⟩

/-- The letters of public texts. -/
def textAlphabet : List Char :=
  "ABCDEFGHIJKLMNOPQRSTUVWXYZabcdefghijklmnopqrstuvwxyz0123456789-_".toList

/-- The letters of storage keys. -/
def keyAlphabet : List Char := "abcdefghijklmnopqrstuvwxyz234567".toList

/-- The letters for the lowest `count` digits of a number, the highest digit first. -/
def letters (alphabet : List Char) (count n : Nat) : List Char :=
  (lowDigits alphabet.length count n).reverse.map fun d => alphabet[d]?.getD 'A'

/-- The public text. -/
def text (u : Uid) : String :=
  if u.isZero then "" else String.ofList (letters textAlphabet 11 (4 * u.spelled))

/-- The storage key. -/
def key (u : Uid) : String := String.ofList (letters keyAlphabet 13 (2 * u.spelled))

/-- The place of a letter in the alphabet of public texts. -/
def letterValue? (c : Char) : Option Nat := textAlphabet.findIdx? (· == c)

/-- The identifier with the given public text. -/
def parse (text : String) : Uid :=
  match text.toList.mapM letterValue? with
  | some digits =>
    if digits.length = 11 then ofSpelled (ofLowDigits 64 digits.reverse / 4) else zero
  | none => zero

end Uid

end MediaDepot
