import CommandConsole.Number.Digits
import CommandConsole.Number.Double
import CommandConsole.Text.Blank

namespace CommandConsole.Number

/-!
# The layout of doubles

A double is written with a fixed count of decimal places, with an exponent,
with a count of significant digits, or with the fewest digits that tell it from
every other double. Digits are chosen by exact arithmetic and rounded half to
even.
-/

/-- Significant decimal digits together with the exponent of the first one. -/
structure Significant where
  digits : List Char
  exponent : Int
  deriving Repr, DecidableEq

namespace Significant

/-- Whether a power of ten does not exceed a quotient. -/
def isReached (numerator denominator : Nat) (exponent : Int) : Bool :=
  denominator * powerOfTen exponent.toNat ≤ numerator * powerOfTen (-exponent).toNat

/--
The greatest exponent whose power of ten does not exceed a positive quotient.
The binary exponent leaves three candidates, as the logarithm of two is close
to 0.30103.
-/
def decimalExponent (numerator denominator : Nat) : Int :=
  let estimate := Double.binaryExponent numerator denominator * 30103 / 100000
  (([estimate + 1, estimate].find? fun exponent => isReached numerator denominator exponent).getD
    (estimate - 1))

/-- A quotient in units of a power of ten, as a quotient. -/
def inUnits (numerator denominator : Nat) (exponent : Int) : Nat × Nat :=
  (numerator * powerOfTen (-exponent).toNat, denominator * powerOfTen exponent.toNat)

/-- The digits of a number of units whose first digit had an exponent before it was rounded. -/
def ofUnits (count : Nat) (exponent : Int) (units : Nat) : Significant :=
  let digits := toDigits count units
  ⟨digits, exponent + (digits.length - count)⟩

/-- A given positive count of digits of a quotient. -/
def rounded (count numerator denominator : Nat) : Significant :=
  if numerator = 0 then
    ⟨List.replicate count '0', 0⟩
  else
    let exponent := decimalExponent numerator denominator
    let (numerator, denominator) := inUnits numerator denominator (exponent - (count - 1))
    let found := ofUnits count exponent (roundQuotient numerator denominator)
    { found with digits := found.digits.take count }

/-- The digits without the zeros behind them; the first digit stays. -/
def trimmed (significant : Significant) : Significant :=
  match significant.digits with
  | [] =>
      significant
  | first :: rest =>
      { significant with digits := first :: Text.dropTrailing (· == '0') rest }

/-- Whether a number of units of a power of ten rounds to a finite double. -/
def readsBack
    (significand : Nat)
    (binaryExponent decimalExponent : Int)
    (units : Nat) :
    Bool :=
  Double.ofQuotient false
      (units * powerOfTen decimalExponent.toNat) (powerOfTen (-decimalExponent).toNat) =
    .finite false significand binaryExponent

/-- The given count of digits that read back as a positive finite double, if there are any. -/
def identifying?
    (significand : Nat)
    (binaryExponent : Int)
    (count : Nat) :
    Option Significant :=
  let (numerator, denominator) := Double.quotient significand binaryExponent
  let exponent := decimalExponent numerator denominator
  let unit := exponent - (count - 1)
  let (numerator, denominator) := inUnits numerator denominator unit
  let lower := numerator / denominator
  let nearest := roundQuotient numerator denominator
  let farther := if nearest = lower then lower + 1 else lower
  (([nearest, farther].find? fun units => readsBack significand binaryExponent unit units).map
    fun units => ofUnits count exponent units)

/-- The count of digits that tells any two doubles apart. -/
def sufficientCount : Nat :=
  17

/-- The fewest digits that read back as a finite double. -/
def shortest (significand : Nat) (binaryExponent : Int) : Significant :=
  if significand = 0 then
    ⟨['0'], 0⟩
  else
    let counts := (List.range sufficientCount).map (· + 1)
    let (numerator, denominator) := Double.quotient significand binaryExponent
    (((counts.findSome? fun count => identifying? significand binaryExponent count).getD
      (rounded sufficientCount numerator denominator)).trimmed)

/-- The digits with the point at its place; behind the last digit it stands only on request. -/
def placePoint (significant : Significant) (keepPoint : Bool) : List Char :=
  if significant.exponent < 0 then
    '0' :: '.' :: List.replicate (-significant.exponent - 1).toNat '0' ++ significant.digits
  else
    let count := significant.exponent.toNat + 1
    let whole :=
      significant.digits.take count ++ List.replicate (count - significant.digits.length) '0'
    match significant.digits.drop count with
    | [] =>
        if keepPoint then whole ++ ['.'] else whole
    | fraction =>
        whole ++ '.' :: fraction

/-- The digits with the point behind the first one, and the exponent. -/
def placeExponent (significant : Significant) (keepPoint : Bool) : List Char :=
  placePoint { significant with exponent := 0 } keepPoint ++
    'e' :: (if significant.exponent < 0 then '-' else '+') ::
      toDigits 2 significant.exponent.natAbs

end Significant

/-- The ways in which a count of digits is asked for. -/
inductive Style where
  /-- The count is that of the decimal places. -/
  | fixed
  /-- The count is that of the places behind the point, in front of an exponent. -/
  | scientific
  /-- The count is that of the significant digits; zeros at the end are left out. -/
  | general
  deriving Repr, DecidableEq

namespace Style

/-- A quotient with a count of decimal places. -/
def fixedPlaces (places : Nat) (keepPoint : Bool) (numerator denominator : Nat) : List Char :=
  let digits := toDigits (places + 1) (roundQuotient (numerator * powerOfTen places) denominator)
  let whole := digits.take (digits.length - places)
  match digits.drop (digits.length - places) with
  | [] =>
      if keepPoint then whole ++ ['.'] else whole
  | fraction =>
      whole ++ '.' :: fraction

/-- A quotient with a count of significant digits. -/
def significantDigits
    (count : Nat)
    (keepPoint : Bool)
    (numerator denominator : Nat) :
    List Char :=
  let count := max count 1
  let rounded := Significant.rounded count numerator denominator
  let shown := if keepPoint then rounded else rounded.trimmed
  if rounded.exponent < -4 ∨ (count : Int) ≤ rounded.exponent then
    shown.placeExponent keepPoint
  else
    shown.placePoint keepPoint

/-- A quotient in a style. -/
def write (style : Style) (count : Nat) (keepPoint : Bool) (numerator denominator : Nat) :
    List Char :=
  match style with
  | .fixed =>
      fixedPlaces count keepPoint numerator denominator
  | .scientific =>
      (Significant.rounded (count + 1) numerator denominator).placeExponent keepPoint
  | .general =>
      significantDigits count keepPoint numerator denominator

end Style

namespace Double

/-- The sign in front of a number that is not positive. -/
def signOf (negative : Bool) : List Char :=
  if negative then ['-'] else []

/-- What is written for an infinity. -/
def infinityText : List Char :=
  ['i', 'n', 'f']

/-- What is written for the value of an operation without a number. -/
def notNumberText : List Char :=
  ['n', 'a', 'n']

/-- A double in a style. -/
def write (style : Style) (count : Nat) (keepPoint : Bool) : Double → List Char
  | .finite negative significand exponent =>
      let (numerator, denominator) := quotient significand exponent
      signOf negative ++ style.write count keepPoint numerator denominator
  | .infinite negative =>
      signOf negative ++ infinityText
  | .notNumber =>
      notNumberText

/-- The least exponent of a number that is written without one. -/
def leastPlainExponent : Int :=
  -4

/-- The least exponent of a number that is too great to be written without one. -/
def leastGreatExponent : Int :=
  16

/-- A double by the fewest digits that tell it from every other one. -/
def shown : Double → List Char
  | .finite negative significand exponent =>
      let shortest := Significant.shortest significand exponent
      let digits :=
        if leastPlainExponent ≤ shortest.exponent ∧ shortest.exponent < leastGreatExponent then
          let plain := shortest.placePoint true
          if plain.getLast? = some '.' then plain ++ ['0'] else plain
        else
          shortest.placeExponent false
      signOf negative ++ digits
  | .infinite negative =>
      signOf negative ++ infinityText
  | .notNumber =>
      notNumberText

end Double

end CommandConsole.Number
