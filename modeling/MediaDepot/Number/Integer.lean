import MediaDepot.Text.Blank
import MediaDepot.Text.Pieces

/-!
# Whole numbers in text

Two ways of writing a whole number.

* `ofSettingText?` — in settings: a sign, decimal digits of any script, single underscores between
  digits, blanks around. The information separators are not accepted as blanks here.
* `ofDocumentText` — in documents, where a number may stand as text: ASCII digits only, with leading
  zeros, single underscores and a fraction of nothing but zeros.

Both refuse numbers of more than `maxDigits` digits.
-/

namespace MediaDepot.Number

open Text

/-- The largest whole number of 64 bits with a sign. -/
def wordMax : Nat := 0x7FFFFFFFFFFFFFFF

/-- Does the number fit into 64 bits with a sign? -/
def fitsWord (n : Int) : Bool := -(wordMax : Int) - 1 ≤ n && n ≤ wordMax

/-- The most digits that a whole number may have when it is read from text. -/
def maxDigits : Nat := 4300

/-- The code points of the digit zero of all scripts beyond ASCII; each is followed by its script's
other nine digits. -/
def scriptZeros : List Nat := [
  1632, 1776, 1984, 2406, 2534, 2662, 2790, 2918, 3046, 3174, 3302, 3430, 3558, 3664, 3792, 3872,
  4160, 4240, 6112, 6160, 6470, 6608, 6784, 6800, 6992, 7088, 7232, 7248, 42528, 43216, 43264,
  43472, 43504, 43600, 44016, 65296, 66720, 68912, 69734, 69872, 69942, 70096, 70384, 70736,
  70864, 71248, 71360, 71472, 71904, 72016, 72784, 73040, 73120, 92768, 92864, 93008, 120782,
  120792, 120802, 120812, 120822, 123200, 123632, 125264, 130032]

/-- The ASCII digit for a decimal digit of another script, a space for a blank character beyond
ASCII, and the character itself otherwise. -/
def plainForm (c : Char) : Char :=
  if c.toNat < 128 then c
  else if isBlank c then ' '
  else match scriptZeros.find? (fun start => start ≤ c.toNat && c.toNat < start + 10) with
    | some start => Char.ofNat (48 + (c.toNat - start))
    | none => c

/-- The ASCII characters that may surround a number. -/
def isNumberSpace (c : Char) : Bool := (9 ≤ c.toNat && c.toNat ≤ 13) || c == ' '

/-- The value of a list of ASCII digits. -/
def digitsValue (digits : List Char) : Nat :=
  digits.foldl (fun value c => 10 * value + (c.toNat - 48)) 0

/-- Digits in groups joined by single underscores, with the underscores removed. -/
def grouped? (cs : List Char) : Option (List Char) :=
  let groups := pieces '_' cs
  if groups.all (fun g => !g.isEmpty && g.all Char.isDigit) then some groups.flatten else none

/-- The sign of a number and the rest of it. -/
def splitSign : List Char → Bool × List Char
  | '-' :: rest => (true, rest)
  | '+' :: rest => (false, rest)
  | cs => (false, cs)

/-- The whole number with the given sign and absolute value. -/
def signed (negative : Bool) (magnitude : Nat) : Int :=
  if negative then -(magnitude : Int) else magnitude

/-- The whole number written in a setting. -/
def ofSettingText? (s : String) : Option Int := do
  let (negative, body) := splitSign (stripEnds isNumberSpace (s.toList.map plainForm))
  let digits ← grouped? body
  if digits.length ≤ maxDigits then some (signed negative (digitsValue digits)) else none

/-- Why a text of a document is not taken as a whole number. -/
inductive TextFault where
  /-- It is not written as a whole number. -/
  | malformed
  /-- It has too many digits. -/
  | tooLong
  deriving DecidableEq, Repr

/-- ASCII digits without a superfluous leading zero. -/
def isPlainNumber : List Char → Bool
  | ['0'] => true
  | [] => false
  | c :: rest => c != '0' && c.isDigit && rest.all Char.isDigit

/-- Is a number in a document short enough? Its sign does not count. -/
def isShort (digits : List Char) : Bool := digits.length ≤ maxDigits

/-- The whole number in the form that documents themselves have for it: digits after a minus sign if
it is negative. Digits that are too many are refused before anything that may follow them. -/
def ofPlain (cs : List Char) : Except TextFault Int :=
  let (negative, body) : Bool × List Char :=
    match cs with
    | '-' :: rest => (true, rest)
    | cs => (false, cs)
  let (digits, rest) := body.span Char.isDigit
  if !isPlainNumber digits then .error .malformed
  else if !isShort digits then .error .tooLong
  else if !rest.isEmpty then .error .malformed
  else .ok (signed negative (digitsValue digits))

/-- Without leading zeros, with or without underscores among them. The last of these characters
stays if nothing or a fraction follows; otherwise a digit or a minus sign must follow. -/
def dropLeadingZeros? : List Char → Option (List Char)
  | '0' :: rest =>
    let (zeros, rest) := rest.span fun c => c == '0' || c == '_'
    match rest with
    | [] => some [zeros.getLastD '0']
    | c :: _ =>
      if c = '.' then some (zeros.getLastD '0' :: rest)
      else if c.isDigit || c == '-' then some rest
      else none
  | c :: rest => if c.isDigit then some (c :: rest) else none
  | [] => none

/-- Without a fraction of zeros. -/
def dropZeroFraction (cs : List Char) : List Char :=
  match cut '.' cs with
  | (whole, some fraction) =>
    if !fraction.isEmpty && fraction.all (· == '0') then whole else cs
  | (_, none) => cs

/-- Without underscores, if they all stand single between other characters. -/
def dropUnderscores (cs : List Char) : List Char :=
  if (pieces '_' cs).any List.isEmpty then cs else cs.filter (· != '_')

/-- A number without its sign in plain form. -/
def tidy? (cs : List Char) : Option (List Char) :=
  (dropLeadingZeros? cs).map fun cs => dropUnderscores (dropZeroFraction cs)

/-- A number in plain form: without blanks around it, plus sign, leading zeros, fraction and
underscores. -/
def plain? (cs : List Char) : Option (List Char) :=
  match stripEnds isWhiteSpace cs with
  | '-' :: rest => (tidy? rest).map ('-' :: ·)
  | '+' :: '-' :: _ => none
  | '+' :: rest => tidy? rest
  | cs => tidy? cs

/-- The whole number written as text in a document. -/
def ofDocumentText (s : String) : Except TextFault Int :=
  match ofPlain s.toList with
  | .error .malformed =>
    match (plain? s.toList).map ofPlain with
    | some (.ok n) => .ok n
    | _ => .error .malformed
  | result => result

end MediaDepot.Number
