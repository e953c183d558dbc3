import MediaDepot.Number.Binary64

/-!
# Shortest decimal text

The text of a floating-point number: the fewest significant digits that read back as the same
number, of these the digits nearest to it. Numbers from 10^-4 to below 10^16 are written
positionally, with `.0` if they are whole; all others with one digit before the point and an
exponent of at least two digits.

* `shortest` — the digits and the place of the point.
* `Binary64.toText` — the text; the words for infinities and for what is not a number are those that
  a reader of documents takes back.
-/

namespace MediaDepot.Number

/-- A positive number with the ends of the interval that rounds to it, all in units of `1 / den`;
the ends belong to it if `closed`. -/
structure Interval where
  low : Nat
  value : Nat
  high : Nat
  den : Nat
  closed : Bool

/-- The interval of a positive finite number. Below a power of two the next smaller number is only
half a unit away. -/
def Interval.of (mantissa : Nat) (exponent : Int) : Interval :=
  let below := if mantissa = Binary64.leastFull ∧ -1074 < exponent then 1 else 2
  let up := 1 <<< (exponent - 2).toNat
  let den := 1 <<< (2 - exponent).toNat
  ⟨(4 * mantissa - below) * up, 4 * mantissa * up, (4 * mantissa + 2) * up, den, mantissa % 2 == 0⟩

/-- Does the decimal `digits * 10 ^ exponent` round to the number of the interval? -/
def Interval.holds (i : Interval) (digits : Nat) (exponent : Int) : Bool :=
  let point := digits * Nat.pow 10 exponent.toNat * i.den
  let scale := Nat.pow 10 (-exponent).toNat
  let low := i.low * scale
  let high := i.high * scale
  (low < point && point < high) || (i.closed && (point == low || point == high))

/-- The least `k` with `num / den < 10 ^ k`, given a quotient below one: counts the places between
the point and the first digit. -/
def leadingZeros (num den : Nat) : Nat → Int → Int
  | 0, k => k
  | fuel + 1, k => if den ≤ num * 10 then k else leadingZeros (num * 10) den fuel (k - 1)

/-- The place of the point: the least `k` with `num / den < 10 ^ k`. -/
def pointPlace (num den : Nat) : Int :=
  if den ≤ num then (Nat.toDigits 10 (num / den)).length else leadingZeros num den 400 0

/-- The nearest of the two decimals with the given exponent around the number, if one of them is in
its interval. -/
def Interval.decimal? (i : Interval) (exponent : Int) : Option Nat :=
  let num := i.value * Nat.pow 10 (-exponent).toNat
  let den := i.den * Nat.pow 10 exponent.toNat
  let down := num / den
  match i.holds down exponent, i.holds (down + 1) exponent with
  | false, false => none
  | true, false => some down
  | false, true => some (down + 1)
  | true, true => some (Binary64.nearest num den)

/-- The first hit among the grids of `n`, `n + 1`, … digits. -/
def Interval.search (i : Interval) (place : Int) : Nat → Int → Nat × Int
  | 0, n => (i.value / i.den, place - n)
  | fuel + 1, n =>
    match i.decimal? (place - n) with
    | some digits => (digits, place - n)
    | none => i.search place fuel (n + 1)

/-- The shortest decimal `digits * 10 ^ exponent` that rounds to a positive finite number. -/
def shortest (mantissa : Nat) (exponent : Int) : Nat × Int :=
  let i := Interval.of mantissa exponent
  i.search (pointPlace i.value i.den) 18 1

/-- Significant digits without trailing zeros, and the place of the point counted from the first. -/
def significant (digits : Nat) (exponent : Int) : List Char × Int :=
  let text := Nat.toDigits 10 digits
  let kept := (text.reverse.dropWhile (· == '0')).reverse
  (kept, (text.length : Int) + exponent)

/-- The text of an exponent, with a sign and at least two digits. -/
def exponentText (e : Int) : List Char :=
  let digits := Nat.toDigits 10 e.natAbs
  (if e < 0 then '-' else '+') :: (if digits.length < 2 then '0' :: digits else digits)

/-- Significant digits written positionally or with an exponent. -/
def layOut (digits : List Char) (place : Int) : List Char :=
  if -4 < place ∧ place ≤ 16 then
    if place ≤ 0 then '0' :: '.' :: (List.replicate place.natAbs '0' ++ digits)
    else
      let whole := digits.take place.toNat
      let fraction := digits.drop place.toNat
      whole ++ List.replicate (place.toNat - digits.length) '0' ++
        '.' :: (if fraction.isEmpty then ['0'] else fraction)
  else
    let fraction := digits.drop 1
    digits.take 1 ++ (if fraction.isEmpty then [] else '.' :: fraction) ++
      'e' :: exponentText (place - 1)

/-- The words for what has no digits. -/
structure Words where
  nan : String
  infinity : String

/-- The text of a floating-point number. -/
def Binary64.toText (words : Words) : Binary64 → String
  | .nan => words.nan
  | .infinite negative => (if negative then "-" else "") ++ words.infinity
  | .finite negative mantissa exponent =>
    let body :=
      if mantissa = 0 then ['0', '.', '0']
      else
        let (digits, e) := shortest mantissa exponent
        let (kept, place) := significant digits e
        layOut kept place
    String.ofList (if negative then '-' :: body else body)

end MediaDepot.Number
