import CommandConsole.Number.Digits
import CommandConsole.Number.Power
import CommandConsole.Text.Blank

namespace CommandConsole.Settings

/-!
# Integers as settings

The texts that stand for integers. A text is reduced step by step: white space
around the number, a plus sign, the zeros in front, a fraction of zeros, and
single underscores do not count. What is left must be an integer in plain
digits, and a long one must not begin with a zero.
-/

/-- A text without the white space at both ends. -/
def trimWhiteSpace (characters : List Char) : List Char :=
  Text.dropTrailing Text.isWhiteSpace (characters.dropWhile Text.isWhiteSpace)

/-- A text without its plus sign, behind which no other sign may stand. -/
def stripPlus : List Char → Option (List Char)
  | '+' :: '-' :: _ =>
      none
  | '+' :: rest =>
      some rest
  | characters =>
      some characters

/-- Whether a number without zeros in front can begin with a character. -/
def beginsNumber (character : Char) : Bool :=
  character == '-' || ('1' ≤ character && character ≤ '9')

/--
The text behind zeros and underscores, of which the given character was the
last. One character stays in front of a point and at the end.
-/
def skipZeros (last : Char) : List Char → Option (List Char)
  | [] =>
      some [last]
  | character :: rest =>
      if character = '0' ∨ character = '_' then
        skipZeros character rest
      else if beginsNumber character then
        some (character :: rest)
      else if character = '.' then
        some (last :: character :: rest)
      else
        none

/-- A number without the zeros in front. -/
def stripZeros : List Char → Option (List Char)
  | [] =>
      none
  | character :: rest =>
      if character = '0' then
        skipZeros character rest
      else if beginsNumber character then
        some (character :: rest)
      else
        none

/-- A number without the fraction behind its first point, if that is one or more zeros. -/
def stripFraction (characters : List Char) : List Char :=
  match characters.dropWhile (· != '.') with
  | '.' :: zero :: zeros =>
      if (zero :: zeros).all (· == '0') then
        characters.takeWhile (· != '.')
      else
        characters
  | _ =>
      characters

/-- Whether no underscore stands at an end or beside another. -/
def hasSingleUnderscores : List Char → Bool
  | [] =>
      true
  | [character] =>
      character != '_'
  | character :: next :: rest =>
      !(character == '_' && next == '_') && hasSingleUnderscores (next :: rest)

/-- A number without its underscores, if each of them stands between other characters. -/
def stripUnderscores (characters : List Char) : List Char :=
  if characters.head? ≠ some '_' ∧ hasSingleUnderscores characters then
    characters.filter (· != '_')
  else
    characters

/-- A number without what does not count. -/
def reduce (characters : List Char) : Option (List Char) := do
  let characters ← stripPlus (trimWhiteSpace characters)
  let characters ← stripZeros characters
  return stripUnderscores (stripFraction characters)

/-- The count of characters of the longest integer, its minus sign included. -/
def integerLengthLimit : Nat :=
  4300

/-- Beyond the magnitude of every integer that may begin with zeros. -/
def wordBound : Nat :=
  Number.powerOfTwo 63

/-- The integer in plain digits behind an optional minus sign. -/
def plainInteger? (characters : List Char) : Option Int :=
  let negative := characters.head? = some '-'
  let digits := if negative then characters.tail else characters
  if digits ≠ [] ∧ digits.all Char.isDigit then
    let magnitude := Int.ofNat (Number.ofDigits digits)
    let value := if negative then -magnitude else magnitude
    if (-wordBound ≤ value ∧ value < wordBound) ∨
        (digits.head? ≠ some '0' ∧ characters.length ≤ integerLengthLimit) then
      some value
    else
      none
  else
    none

/-- The integer that a text stands for. -/
def integer? (text : String) : Option Int :=
  (reduce text.toList).bind plainInteger?

/-- Whether a text begins with an integer in plain digits that is longer than any may be. -/
def beginsTooLong (text : String) : Bool :=
  let characters := text.toList
  let signLength := if characters.head? = some '-' then 1 else 0
  let digits := (characters.drop signLength).takeWhile Char.isDigit
  digits.head? ≠ some '0' && integerLengthLimit < signLength + digits.length

end CommandConsole.Settings
