import MediaDepot.Json.Basic
import MediaDepot.Number.Integer
import MediaDepot.Bytes

/-!
# Reading documents

The strict grammar of documents, with three more words: `NaN`, `Infinity` and `-Infinity`. Escapes
of surrogates must come in pairs, raw control characters do not stand in texts, numbers have at most
`Number.maxDigits` digits before the point, and containers that are not empty may be nested up to a
given depth.

* `Json.parse?` — the value of a whole text.
-/

namespace MediaDepot.Json

open Number

/-- Without leading blanks. -/
def skipBlanks : List Char → List Char :=
  List.dropWhile fun c => c == ' ' || c == '\n' || c == '\r' || c == '\t'

/-- The number written with four hexadecimal digits. -/
def hexQuad? (a b c d : Char) : Option Nat := do
  return ((← Bytes.hexValue? a) * 16 + (← Bytes.hexValue? b)) * 256
    + ((← Bytes.hexValue? c) * 16 + (← Bytes.hexValue? d))

/-- The character that a letter after a backslash stands for. -/
def escaped? : Char → Option Char
  | '"' => some '"'
  | '\\' => some '\\'
  | '/' => some '/'
  | 'b' => some '\x08'
  | 'f' => some '\x0c'
  | 'n' => some '\n'
  | 'r' => some '\r'
  | 't' => some '\t'
  | _ => none

/-- The rest of a text up to its closing quote, and what follows it. `high` is the first half of a
surrogate pair that waits for its second half. -/
def readText (high : Option Nat) (done : List Char) : List Char → Option (String × List Char)
  | [] => none
  | '"' :: rest => if high.isNone then some (String.ofList done.reverse, rest) else none
  | '\\' :: 'u' :: a :: b :: c :: d :: rest => do
    let code ← hexQuad? a b c d
    match high with
    | some first =>
      if 0xDC00 ≤ code ∧ code < 0xE000 then
        readText none (Char.ofNat (0x10000 + (first - 0xD800) * 1024 + (code - 0xDC00)) :: done)
          rest
      else none
    | none =>
      if 0xD800 ≤ code ∧ code < 0xDC00 then readText (some code) done rest
      else if 0xDC00 ≤ code ∧ code < 0xE000 then none
      else readText none (Char.ofNat code :: done) rest
  | '\\' :: e :: rest => do
    let c ← escaped? e
    if high.isNone then readText none (c :: done) rest else none
  | c :: rest => if high.isNone ∧ 32 ≤ c.toNat then readText none (c :: done) rest else none

/-- The exponent of a number, if it has one; `none` for one without digits. -/
def readExponent : List Char → Option (Option Int × List Char)
  | c :: rest =>
    if c = 'e' ∨ c = 'E' then
      let (negative, rest) := splitSign rest
      match rest.span Char.isDigit with
      | ([], _) => none
      | (digits, rest) => some (some (signed negative (digitsValue digits)), rest)
    else some (none, c :: rest)
  | [] => some (none, [])

/-- The fraction of a number, if it has one; `none` for a point without digits. -/
def readFraction : List Char → Option (Option (List Char) × List Char)
  | '.' :: rest =>
    match rest.span Char.isDigit with
    | ([], _) => none
    | (digits, rest) => some (some digits, rest)
  | cs => some (none, cs)

/-- A number without its sign. -/
def readNumber (negative : Bool) (cs : List Char) : Option (Json × List Char) := do
  let (whole, rest) := cs.span Char.isDigit
  if !isPlainNumber whole || !isShort whole then none
  let (fraction, rest) ← readFraction rest
  let (exponent, rest) ← readExponent rest
  match fraction, exponent with
  | none, none => some (.int (signed negative (digitsValue whole)), rest)
  | _, _ =>
    let places := fraction.getD []
    let value := Binary64.ofDecimal negative (digitsValue (whole ++ places))
      (exponent.getD 0 - places.length)
    some (.float value, rest)

/-- A word or a number. -/
def readAtom : List Char → Option (Json × List Char)
  | 'n' :: 'u' :: 'l' :: 'l' :: rest => some (.null, rest)
  | 't' :: 'r' :: 'u' :: 'e' :: rest => some (.bool true, rest)
  | 'f' :: 'a' :: 'l' :: 's' :: 'e' :: rest => some (.bool false, rest)
  | 'N' :: 'a' :: 'N' :: rest => some (.float .nan, rest)
  | 'I' :: 'n' :: 'f' :: 'i' :: 'n' :: 'i' :: 't' :: 'y' :: rest =>
    some (.float (.infinite false), rest)
  | '-' :: 'I' :: 'n' :: 'f' :: 'i' :: 'n' :: 'i' :: 't' :: 'y' :: rest =>
    some (.float (.infinite true), rest)
  | '-' :: rest => readNumber true rest
  | cs => readNumber false cs

mutual

/-- A value, with containers nested at most `depth` deep. Each step down or on takes a character, or
directly follows one that did: `fuel` of twice the length is never used up. -/
def readValue (depth : Nat) : (fuel : Nat) → List Char → Option (Json × List Char)
  | 0, _ => none
  | fuel + 1, cs =>
    match skipBlanks cs with
    | '"' :: rest => (readText none [] rest).map fun (s, rest) => (.str s, rest)
    | '[' :: rest =>
      match skipBlanks rest, depth with
      | ']' :: rest, _ => some (.arr [], rest)
      | _, 0 => none
      | rest, depth + 1 => readItems depth [] fuel rest
    | '{' :: rest =>
      match skipBlanks rest, depth with
      | '}' :: rest, _ => some (.obj [], rest)
      | _, 0 => none
      | rest, depth + 1 => readFields depth [] fuel rest
    | cs => readAtom cs

/-- The items of a list up to its end, after the `done` ones in reverse order. -/
def readItems (depth : Nat) (done : List Json) :
    (fuel : Nat) → List Char → Option (Json × List Char)
  | 0, _ => none
  | fuel + 1, cs => do
    let (item, rest) ← readValue depth fuel cs
    match skipBlanks rest with
    | ',' :: rest => readItems depth (item :: done) fuel rest
    | ']' :: rest => some (.arr (item :: done).reverse, rest)
    | _ => none

/-- The fields of an object up to its end, after the `done` ones. -/
def readFields (depth : Nat) (done : Fields) : (fuel : Nat) → List Char → Option (Json × List Char)
  | 0, _ => none
  | fuel + 1, cs => do
    match skipBlanks cs with
    | '"' :: rest =>
      let (name, rest) ← readText none [] rest
      match skipBlanks rest with
      | ':' :: rest =>
        let (value, rest) ← readValue depth fuel rest
        let done := Fields.put done name value
        match skipBlanks rest with
        | ',' :: rest => readFields depth done fuel rest
        | '}' :: rest => some (.obj done, rest)
        | _ => none
      | _ => none
    | _ => none

end

/-- The value written by the whole text, with containers nested at most `depth` deep. -/
def parse? (depth : Nat) (text : List Char) : Option Json := do
  let (value, rest) ← readValue depth (2 * text.length + 2) text
  if (skipBlanks rest).isEmpty then some value else none

end MediaDepot.Json
