/-!
# Binary floating-point numbers

Numbers with a fraction or an exponent, as documents and settings carry them: a sign, a whole
mantissa below 2^53 and a power of two, or an infinity, or not a number. The exact value is in
reach of proofs; nothing here uses machine arithmetic.

* `ofDecimal` — the number nearest to a decimal, a tie going to the even mantissa; what is too large
  becomes an infinity.
* `truncate` — the whole part; there is none for infinities and for what is not a number.
-/

namespace MediaDepot.Number

/-- A binary floating-point number of 64 bits. -/
inductive Binary64 where
  /-- Not a number. -/
  | nan
  /-- Beyond the largest finite number. -/
  | infinite (negative : Bool)
  /-- The value is `mantissa * 2 ^ exponent`, negated if `negative`. -/
  | finite (negative : Bool) (mantissa : Nat) (exponent : Int)
  deriving DecidableEq, Inhabited, Repr

namespace Binary64

/-- The least mantissa of 53 bits. -/
def leastFull : Nat := 0x10000000000000

/-- A quotient as a fraction in the unit 2 ^ `exponent`. -/
def scaled (num den : Nat) (exponent : Int) : Nat × Nat :=
  if exponent < 0 then (num <<< exponent.natAbs, den) else (num, den <<< exponent.toNat)

/-- The whole number nearest to `num / den`, a tie going to the even one. -/
def nearest (num den : Nat) : Nat :=
  let q := num / den
  let r := num % den
  if 2 * r < den then q else if den < 2 * r then q + 1 else q + q % 2

/-- The exponent of the unit in which the quotient has a mantissa of 53 bits, but never below that
of the smallest numbers. -/
def unitExponent (num den : Nat) : Int :=
  let guess : Int := (num.log2 : Int) - den.log2 - 52
  let (n, d) := scaled num den guess
  let exponent :=
    if n / d < leastFull then guess - 1
    else if 2 * leastFull ≤ n / d then guess + 1
    else guess
  if exponent < -1074 then -1074 else exponent

/-- The number nearest to the quotient of two whole numbers, `den` positive. -/
def ofQuotient (negative : Bool) (num den : Nat) : Binary64 :=
  if num = 0 then .finite negative 0 (-1074)
  else
    let exponent := unitExponent num den
    let (n, d) := scaled num den exponent
    let mantissa := nearest n d
    let (mantissa, exponent) :=
      if mantissa = 2 * leastFull then (leastFull, exponent + 1) else (mantissa, exponent)
    if 971 < exponent then .infinite negative else .finite negative mantissa exponent

/-- The number nearest to `digits * 10 ^ exponent`. Since `digits` has between `3 / 10` and
`31 / 100` decimal places for each binary one, magnitudes far outside the range are decided without
the power of ten. -/
def ofDecimal (negative : Bool) (digits : Nat) (exponent : Int) : Binary64 :=
  if digits = 0 then .finite negative 0 (-1074)
  else if 400 < ((3 * digits.log2 / 10 : Nat) : Int) + exponent then .infinite negative
  else if ((31 * digits.log2 / 100 + 1 : Nat) : Int) + exponent < -400 then
    .finite negative 0 (-1074)
  else if exponent < 0 then ofQuotient negative digits (Nat.pow 10 exponent.natAbs)
  else ofQuotient negative (digits * Nat.pow 10 exponent.toNat) 1

/-- The absolute value without its fraction. -/
def wholeMagnitude (mantissa : Nat) (exponent : Int) : Nat :=
  if exponent < 0 then mantissa >>> exponent.natAbs else mantissa <<< exponent.toNat

/-- The number without its fraction, toward zero. -/
def truncate : Binary64 → Option Int
  | .finite negative mantissa exponent =>
    let whole : Int := wholeMagnitude mantissa exponent
    some (if negative then -whole else whole)
  | _ => none

/-- The exact value; there is none for infinities and for what is not a number. -/
def toRat? : Binary64 → Option Rat
  | .finite negative mantissa exponent =>
    let magnitude : Rat :=
      if exponent < 0 then mkRat mantissa (1 <<< exponent.natAbs)
      else ((mantissa <<< exponent.toNat : Nat) : Rat)
    some (if negative then -magnitude else magnitude)
  | _ => none

/-- Is the number finite and without a fraction? -/
def isWhole : Binary64 → Bool
  | .finite _ mantissa exponent => 0 ≤ exponent || mantissa % (1 <<< exponent.natAbs) == 0
  | _ => false

/-- Is the number zero, of either sign? -/
def isZero : Binary64 → Bool
  | .finite _ mantissa _ => mantissa == 0
  | _ => false

end Binary64

end MediaDepot.Number
