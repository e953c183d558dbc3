import MediaDepot.Text.Charset.Chinese
import MediaDepot.Text.Charset.Units

/-!
# Charsets with shifts

In these charsets all bytes are ASCII, and certain sequences change what the bytes after them stand
for.

* `readHz` — Chinese between braces after tildes.
* `utf7?` — units of two bytes in the digits of base 64, between a plus sign and a hyphen.
-/

namespace MediaDepot.Text

/-! ## Tildes -/

/-- Reads one step of the charset with tildes; the state says whether pairs are read. -/
def readHz : Reader Bool
  | inPairs, 0x7E :: b :: _ =>
    match inPairs, b with
    | false, 0x7E => some (['~'], 2, false)
    | false, 0x7B => some ([], 2, true)
    | false, 0x0A => some ([], 2, false)
    | true, 0x7D => some ([], 2, false)
    | _, _ => none
  | inPairs, a :: rest =>
    if a ≥ 128 ∨ a = 0x7E then none
    else if inPairs then
      match rest with
      | b :: _ =>
        (gb2312? (a.toNat + 128) (b.toNat + 128)).map fun c => ([c], 2, true)
      | [] => none
    else some ([Char.ofNat a.toNat], 1, false)
  | _, [] => none

/-! ## Base 64 -/

/-- The value of a digit of base 64. -/
def base64Digit? (b : UInt8) : Option Nat :=
  let c := Char.ofNat b.toNat
  if c.isUpper then some (c.toNat - 65)
  else if c.isLower then some (c.toNat - 71)
  else if c.isDigit then some (c.toNat + 4)
  else if c = '+' then some 62
  else if c = '/' then some 63
  else none

/-- Digits of base 64 as a number of so many bits. -/
def base64Bits (digits : List Nat) : Nat × Nat :=
  (digits.foldl (fun n d => 64 * n + d) 0, 6 * digits.length)

/-- The units written by digits of base 64: all of whose bits make units of two bytes, but for less
than a digit of zeros at the end. -/
def base64Units? (digits : List Nat) : Option (List Nat) :=
  let (value, bits) := base64Bits digits
  let left := bits % 16
  if left ≥ 6 ∨ value % (1 <<< left) ≠ 0 then none
  else some ((List.range (bits / 16)).map fun i => (value >>> (bits - 16 * (i + 1))) % 0x10000)

/-- The characters of bytes; every step takes a byte at least, so `fuel` bounds their number. A half
may stand alone, but the end does not come after a first half. -/
def utf7From? : (fuel : Nat) → Bytes → Option LooseText
  | _, [] => some []
  | 0, _ => none
  | fuel + 1, 0x2B :: 0x2D :: rest => (utf7From? fuel rest).map (.char '+' :: ·)
  | fuel + 1, 0x2B :: rest =>
    let (digits, after) := rest.span fun b => (base64Digit? b).isSome
    if digits.isEmpty && !after.isEmpty then none
    else do
      let units ← base64Units? (digits.filterMap base64Digit?)
      if after.isEmpty && (units.getLast?.map isFirstHalf).getD false then none
      else
        let after := match after with
          | 0x2D :: after => after
          | after => after
        return looseUnits units ++ (← utf7From? fuel after)
  | fuel + 1, b :: rest =>
    if b < 128 then (utf7From? fuel rest).map (.char (Char.ofNat b.toNat) :: ·) else none

/-- The characters of bytes in the charset with base 64. -/
def utf7? (bytes : Bytes) : Option LooseText := utf7From? bytes.length bytes

end MediaDepot.Text
