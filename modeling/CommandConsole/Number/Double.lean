import CommandConsole.Number.Power
import CommandConsole.Number.Rounding

namespace CommandConsole.Number

/-!
# Doubles

The numbers of the binary format with 64 bits. A finite one is a significand
below 2^53 times a power of two from 2^-1074 to 2^971; every other quotient is
rounded to the nearest of them, or to an infinity beyond the greatest.
-/

/-- A number of the double format, or the value of an operation without a number. -/
inductive Double where
  | finite (negative : Bool) (significand : Nat) (exponent : Int)
  | infinite (negative : Bool)
  | notNumber
  deriving Repr, DecidableEq

namespace Double

/-- The least exponent of a finite number. -/
def leastExponent : Int :=
  -1074

/-- The greatest exponent of a finite number. -/
def greatestExponent : Int :=
  971

/-- The count of bits of a significand. -/
def precision : Nat :=
  53

/-- A positive quotient times a power of two, as a quotient. -/
def scale (numerator denominator : Nat) (exponent : Int) : Nat × Nat :=
  (numerator * powerOfTwo exponent.toNat, denominator * powerOfTwo (-exponent).toNat)

/-- The greatest exponent whose power of two does not exceed a positive quotient. -/
def binaryExponent (numerator denominator : Nat) : Int :=
  let estimate := (numerator.log2 : Int) - denominator.log2
  let (numerator, denominator) := scale numerator denominator (-estimate)
  if denominator ≤ numerator then
    estimate
  else
    estimate - 1

/-- The finite number with a rounded significand, or the infinity beyond the greatest one. -/
def ofSignificand (negative : Bool) (significand : Nat) (exponent : Int) : Double :=
  let (significand, exponent) :=
    if significand = powerOfTwo precision then
      (powerOfTwo (precision - 1), exponent + 1)
    else
      (significand, exponent)
  if greatestExponent < exponent then
    .infinite negative
  else
    .finite negative significand exponent

/-- The number nearest to a quotient whose denominator is positive. -/
def ofQuotient (negative : Bool) (numerator denominator : Nat) : Double :=
  if numerator = 0 then
    .finite negative 0 leastExponent
  else
    let exponent :=
      max (binaryExponent numerator denominator - (precision - 1)) leastExponent
    let (numerator, denominator) := scale numerator denominator (-exponent)
    ofSignificand negative (roundQuotient numerator denominator) exponent

/-- The number nearest to an integer. -/
def ofInt (value : Int) : Double :=
  ofQuotient (value < 0) value.natAbs 1

/-- A finite number without its sign, as a quotient. -/
def quotient (significand : Nat) (exponent : Int) : Nat × Nat :=
  scale significand 1 exponent

/-- The integer next to a finite number towards zero. -/
def truncate (negative : Bool) (significand : Nat) (exponent : Int) : Int :=
  let (numerator, denominator) := quotient significand exponent
  let magnitude := Int.ofNat (numerator / denominator)
  if negative then
    -magnitude
  else
    magnitude

/-- Whether a finite number is an integer. -/
def isWhole (significand : Nat) (exponent : Int) : Bool :=
  let (numerator, denominator) := quotient significand exponent
  numerator % denominator = 0

end Double

/-- A decimal number: digits times a power of ten. -/
structure Decimal where
  negative : Bool
  digits : Nat
  exponent : Int
  deriving Repr, DecidableEq

namespace Decimal

/-- No decimal number with digits and a greater exponent is below the greatest double. -/
def greatestExponent : Int :=
  310

/--
A decimal exponent that the digits of a number certainly do not reach: the
number of their decimal places is less than a third of that of their binary ones.
-/
def leastExponent (digits : Nat) : Int :=
  -330 - (digits.log2 / 3 + 1)

/-- The nearest double. -/
def toDouble (decimal : Decimal) : Double :=
  if decimal.digits = 0 ∨ decimal.exponent < leastExponent decimal.digits then
    .finite decimal.negative 0 Double.leastExponent
  else if greatestExponent < decimal.exponent then
    .infinite decimal.negative
  else
    Double.ofQuotient decimal.negative
      (decimal.digits * powerOfTen decimal.exponent.toNat) (powerOfTen (-decimal.exponent).toNat)

end Decimal

end CommandConsole.Number
