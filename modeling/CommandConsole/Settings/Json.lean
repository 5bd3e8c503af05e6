import CommandConsole.Number.Digits
import CommandConsole.Number.Double

namespace CommandConsole.Settings

/-!
# Structured settings

Values in the JSON format, in which a group of settings can be given as a
whole. Beyond the format, the words NaN, Infinity and -Infinity are numbers. Of
equal keys of an object the last one counts. Texts may escape half of a
surrogate pair, which stands for no character.
-/

/-- One value. -/
inductive Json where
  | null
  | boolean (value : Bool)
  | integer (value : Int)
  /-- A number with a fraction or an exponent, rounded to a double. -/
  | real (value : Number.Double)
  | text (value : String)
  /-- A text with half of a surrogate pair in it. -/
  | brokenText
  | array (items : List Json)
  | object (fields : List (String × Json))
  deriving Repr

/-- The values that hold other values. -/
inductive Container where
  | array
  | object
  deriving Repr, DecidableEq

/-- The name of a container in messages. -/
def Container.label : Container → String
  | .array =>
      "array"
  | .object =>
      "object"

/-- Why a text is no value. -/
inductive JsonFault where
  | malformed
  /-- Too many containers are open where one more opens. -/
  | tooDeep (container : Container)
  deriving Repr, DecidableEq

namespace Json

/-- A text without the white space in front. -/
def skipSpace (characters : List Char) : List Char :=
  characters.dropWhile fun character =>
    character == ' ' || character == '\t' || character == '\n' || character == '\r'

/-- The text behind a given beginning. -/
def behind? : List Char → List Char → Option (List Char)
  | [], characters =>
      some characters
  | _ :: _, [] =>
      none
  | expected :: beginning, character :: characters =>
      if expected = character then
        behind? beginning characters
      else
        none

/-- The value of a hexadecimal digit. -/
def hexDigit? (character : Char) : Option Nat :=
  if '0' ≤ character ∧ character ≤ '9' then
    some (character.toNat - '0'.toNat)
  else if 'a' ≤ character ∧ character ≤ 'f' then
    some (character.toNat - 'a'.toNat + 10)
  else if 'A' ≤ character ∧ character ≤ 'F' then
    some (character.toNat - 'A'.toNat + 10)
  else
    none

/-- The number in four hexadecimal digits, and the text behind them. -/
def codeUnit? : List Char → Option (Nat × List Char)
  | first :: second :: third :: fourth :: rest => do
      let first ← hexDigit? first
      let second ← hexDigit? second
      let third ← hexDigit? third
      let fourth ← hexDigit? fourth
      some (((first * 16 + second) * 16 + third) * 16 + fourth, rest)
  | _ =>
      none

/-- The character with a code unit, unless the unit is half of a surrogate pair. -/
def characterOfUnit (unit : Nat) : Option Char :=
  if 0xD800 ≤ unit ∧ unit ≤ 0xDFFF then
    none
  else
    some (Char.ofNat unit)

/-- The character of an escape by code unit; a pair of surrogates is one character. -/
def escapedCharacter? (characters : List Char) : Option (Option Char × List Char) := do
  let (high, rest) ← codeUnit? characters
  let single := (characterOfUnit high, rest)
  if 0xD800 ≤ high ∧ high ≤ 0xDBFF then
    match rest with
    | '\\' :: 'u' :: following =>
        match codeUnit? following with
        | some (low, rest) =>
            if 0xDC00 ≤ low ∧ low ≤ 0xDFFF then
              some (some (Char.ofNat (0x10000 + (high - 0xD800) * 0x400 + (low - 0xDC00))), rest)
            else
              some single
        | none =>
            some single
    | _ =>
        some single
  else
    some single

/-- The character that a letter stands for behind a backslash. -/
def simpleEscape? : Char → Option Char
  | '"' =>
      some '"'
  | '\\' =>
      some '\\'
  | '/' =>
      some '/'
  | 'b' =>
      some '\x08'
  | 'f' =>
      some '\x0c'
  | 'n' =>
      some '\n'
  | 'r' =>
      some '\r'
  | 't' =>
      some '\t'
  | _ =>
      none

/-- Whether a character stands for itself in a text value. -/
def isPlain (character : Char) : Bool :=
  character != '"' && character != '\\' && 0x20 ≤ character.toNat

/--
The rest of a text value behind its opening quote, without a character for each
half of a surrogate pair, and what follows its closing quote.
-/
def readText : Nat → List Char → Option (List (Option Char) × List Char)
  | 0, _ =>
      none
  | fuel + 1, characters =>
      let plain := (characters.takeWhile isPlain).map some
      match characters.dropWhile isPlain with
      | '"' :: rest =>
          some (plain, rest)
      | '\\' :: 'u' :: rest => do
          let (character, rest) ← escapedCharacter? rest
          let (following, rest) ← readText fuel rest
          some (plain ++ character :: following, rest)
      | '\\' :: letter :: rest => do
          let character ← simpleEscape? letter
          let (following, rest) ← readText fuel rest
          some (plain ++ some character :: following, rest)
      | _ =>
          none

/-- The value of a text whose characters are all known. -/
def ofUnits (units : List (Option Char)) : Json :=
  if units.all Option.isSome then
    .text (String.ofList (units.filterMap id))
  else
    .brokenText

/-- A key; half of a surrogate pair counts as the character for what cannot be shown. -/
def keyOfUnits (units : List (Option Char)) : String :=
  String.ofList (units.map fun unit => unit.getD '\ufffd')

/-- The digits at the front of a text, which must be there, and what follows them. -/
def readDigits (characters : List Char) : Option (List Char × List Char) :=
  let digits := characters.takeWhile Char.isDigit
  if digits = [] then
    none
  else
    some (digits, characters.dropWhile Char.isDigit)

/-- The digits of a fraction at the front of a text, if there is one. -/
def readFraction (characters : List Char) : List Char × List Char :=
  match characters with
  | '.' :: rest =>
      (readDigits rest).getD ([], characters)
  | _ =>
      ([], characters)

/-- The digits of an exponent behind its letter, with its sign. -/
def readSignedExponent (characters : List Char) : Option (Int × List Char) :=
  match characters with
  | '+' :: rest =>
      (readDigits rest).map fun (digits, rest) => (Int.ofNat (Number.ofDigits digits), rest)
  | '-' :: rest =>
      (readDigits rest).map fun (digits, rest) => (-Int.ofNat (Number.ofDigits digits), rest)
  | _ =>
      (readDigits characters).map fun (digits, rest) => (Int.ofNat (Number.ofDigits digits), rest)

/-- The exponent at the front of a text, if there is one. -/
def readExponent (characters : List Char) : Option Int × List Char :=
  match characters with
  | letter :: rest =>
      if letter = 'e' ∨ letter = 'E' then
        match readSignedExponent rest with
        | some (exponent, rest) =>
            (some exponent, rest)
        | none =>
            (none, characters)
      else
        (none, characters)
  | [] =>
      (none, characters)

/-- The whole part of a number: a zero alone, or digits that start with another. -/
def readWhole (characters : List Char) : Option (List Char × List Char) :=
  match characters with
  | '0' :: rest =>
      some (['0'], rest)
  | _ =>
      readDigits characters

/-- The count of digits of the longest integer. -/
def digitLimit : Nat :=
  4300

/-- A number without its sign, and what follows it. -/
def readNumber (negative : Bool) (characters : List Char) : Option (Json × List Char) := do
  let (whole, rest) ← readWhole characters
  let (fraction, rest) := readFraction rest
  let (exponent, rest) := readExponent rest
  if fraction = [] ∧ exponent = none then
    if whole.length ≤ digitLimit then
      let value := Int.ofNat (Number.ofDigits whole)
      some (.integer (if negative then -value else value), rest)
    else
      none
  else
    let digits := Number.ofDigits (whole ++ fraction)
    let decimal : Number.Decimal := ⟨negative, digits, exponent.getD 0 - fraction.length⟩
    some (.real decimal.toDouble, rest)

/-- The words that stand for values. -/
def keywords : List (String × Json) :=
  [
    ("null", .null),
    ("true", .boolean true),
    ("false", .boolean false),
    ("NaN", .real .notNumber),
    ("Infinity", .real (.infinite false)),
    ("-Infinity", .real (.infinite true))
  ]

/-- The value of a word at the front of a text, and what follows it. -/
def readKeyword (characters : List Char) : Option (Json × List Char) :=
  keywords.findSome? fun (word, value) =>
    (behind? word.toList characters).map fun rest => (value, rest)

/-- What was read, or the fault of a text in which nothing can be read. -/
def orMalformed (found : Option α) : Except JsonFault α :=
  match found with
  | some value =>
      .ok value
  | none =>
      .error .malformed

/-- A word or a number at the front of a text, and what follows it. -/
def readScalar (characters : List Char) : Option (Json × List Char) :=
  match readKeyword characters with
  | some found =>
      some found
  | none =>
      match characters with
      | '-' :: characters =>
          readNumber true characters
      | _ =>
          readNumber false characters

mutual

/--
The value at the front of a text that starts with no white space, and what
follows it, with at most a given count of containers inside one another.
-/
def readValue (depth : Nat) : Nat → List Char → Except JsonFault (Json × List Char)
  | 0, _ =>
      .error .malformed
  | fuel + 1, '"' :: characters => do
      let (units, rest) ← orMalformed (readText fuel characters)
      return (ofUnits units, rest)
  | fuel + 1, '[' :: characters =>
      match depth with
      | 0 =>
          .error (.tooDeep .array)
      | depth + 1 =>
          match skipSpace characters with
          | ']' :: rest =>
              .ok (.array [], rest)
          | characters => do
              let (items, rest) ← readItems depth fuel characters
              return (.array items, rest)
  | fuel + 1, '\x7b' :: characters =>
      match depth with
      | 0 =>
          .error (.tooDeep .object)
      | depth + 1 =>
          match skipSpace characters with
          | '\x7d' :: rest =>
              .ok (.object [], rest)
          | characters => do
              let (fields, rest) ← readFields depth fuel characters
              return (.object fields, rest)
  | _ + 1, characters =>
      orMalformed (readScalar characters)

/-- The items of an array up to its end. -/
def readItems (depth : Nat) : Nat → List Char → Except JsonFault (List Json × List Char)
  | 0, _ =>
      .error .malformed
  | fuel + 1, characters => do
      let (item, rest) ← readValue depth fuel characters
      match skipSpace rest with
      | ',' :: rest =>
          let (items, rest) ← readItems depth fuel (skipSpace rest)
          return (item :: items, rest)
      | ']' :: rest =>
          return ([item], rest)
      | _ =>
          .error .malformed

/-- The fields of an object up to its end. -/
def readFields (depth : Nat) :
    Nat → List Char → Except JsonFault (List (String × Json) × List Char)
  | fuel + 1, '"' :: characters => do
      let (units, rest) ← orMalformed (readText fuel characters)
      match skipSpace rest with
      | ':' :: rest =>
          let (value, rest) ← readValue depth fuel (skipSpace rest)
          let field := (keyOfUnits units, value)
          match skipSpace rest with
          | ',' :: rest =>
              let (fields, rest) ← readFields depth fuel (skipSpace rest)
              return (field :: fields, rest)
          | '\x7d' :: rest =>
              return ([field], rest)
          | _ =>
              .error .malformed
      | _ =>
          .error .malformed
  | _, _ =>
      .error .malformed

end

/-- The greatest count of containers inside one another. -/
def depthLimit : Nat :=
  980

/-- The value that a whole text stands for. -/
def ofText (text : String) : Except JsonFault Json := do
  let characters := text.toList
  let (value, rest) ← readValue depthLimit (2 * characters.length + 2) (skipSpace characters)
  if skipSpace rest = [] then
    return value
  else
    .error .malformed

end Json

end CommandConsole.Settings
