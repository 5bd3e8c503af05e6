import CommandConsole.Log.Value
import CommandConsole.Number.Power

namespace CommandConsole.Log

/-!
# Message templates

A template is a text with conversions, each of which is a percent sign, perhaps
a name in parentheses, flags, a width, a precision and a letter. A template is
cut into its pieces first; then the pieces take the values that are given for
them, in order or by name. Two percent signs side by side stand for one.
-/

/-- Why a template cannot be filled. -/
inductive TemplateFault where
  | tooFewValues
  | tooManyValues
  | numberNeeded (letter : Char) (kind : String)
  | integerNeeded (letter : Char) (kind : String)
  | realNeeded (kind : String)
  | characterNeeded
  | characterRange
  | sizeNeeded
  | sizeRange (carrier : String)
  | widthRange
  | precisionRange
  | digitsRange
  | noMemory
  | infiniteInteger
  | notNumberInteger
  | realRange
  | namesNeeded
  | unknownName (name : String)
  | incompleteName
  | incomplete
  | unsupported (letter : Char) (index : Nat)
  deriving Repr, DecidableEq

/-- A letter as faults show it. -/
def shownLetter (letter : Char) : String :=
  let code := letter.toNat
  let shown := if 0x1F ≤ code ∧ code ≤ 0x7E then letter else '?'
  "'" ++ shown.toString ++ "' (0x" ++ String.ofList (Nat.toDigits 16 code) ++ ")"

/-- The wording of a fault. -/
def TemplateFault.message : TemplateFault → String
  | .tooFewValues =>
      "not enough arguments for format string"
  | .tooManyValues =>
      "not all arguments converted during string formatting"
  | .numberNeeded letter kind =>
      "%" ++ letter.toString ++ " format: a real number is required, not " ++ kind
  | .integerNeeded letter kind =>
      "%" ++ letter.toString ++ " format: an integer is required, not " ++ kind
  | .realNeeded kind =>
      "must be real number, not " ++ kind
  | .characterNeeded =>
      "%c requires int or char"
  | .characterRange =>
      "%c arg not in range(0x110000)"
  | .sizeNeeded =>
      "* wants int"
  | .sizeRange carrier =>
      "Python int too large to convert to C " ++ carrier
  | .widthRange =>
      "width too big"
  | .precisionRange =>
      "precision too big"
  | .digitsRange =>
      "precision too large"
  | .noMemory =>
      ""
  | .infiniteInteger =>
      "cannot convert float infinity to integer"
  | .notNumberInteger =>
      "cannot convert float NaN to integer"
  | .realRange =>
      "int too large to convert to float"
  | .namesNeeded =>
      "format requires a mapping"
  | .unknownName name =>
      Text.quoted name
  | .incompleteName =>
      "incomplete format key"
  | .incomplete =>
      "incomplete format"
  | .unsupported letter index =>
      "unsupported format character " ++ shownLetter letter ++ " at index " ++ toString index

/-- The flags of a conversion. -/
structure Flags where
  leftAligned : Bool := false
  signed : Bool := false
  spaced : Bool := false
  alternate : Bool := false
  zeroFilled : Bool := false
  deriving Repr, DecidableEq

namespace Flags

/-- Whether a character is a flag. -/
def isFlag (character : Char) : Bool :=
  ['-', '+', ' ', '#', '0'].contains character

/-- Turn on what a flag stands for. -/
def turnOn (flags : Flags) : Char → Flags
  | '-' =>
      { flags with leftAligned := true }
  | '+' =>
      { flags with signed := true }
  | ' ' =>
      { flags with spaced := true }
  | '#' =>
      { flags with alternate := true }
  | _ =>
      { flags with zeroFilled := true }

end Flags

/-- A width or a precision as a conversion gives it. -/
inductive Size where
  | absent
  | number (value : Nat)
  /-- The next value is the size. -/
  | asked
  deriving Repr, DecidableEq

/-- The name that a conversion takes its value by, if it gives one. -/
inductive Selector where
  | next
  | named (name : String)
  /-- A name without its closing parenthesis. -/
  | unclosed
  deriving Repr, DecidableEq

/-- A conversion as it stands in a template. -/
structure Conversion where
  selector : Selector
  flags : Flags
  width : Size
  precision : Size
  /-- The letter, unless the template ends before it. -/
  letter : Option Char
  /-- What stands behind the conversion in its template. -/
  following : List Char
  deriving Repr, DecidableEq

/-- A piece of a template. -/
inductive Piece where
  | literal (character : Char)
  | conversion (conversion : Conversion)
  deriving Repr, DecidableEq

namespace Conversion

/-- The name up to the parenthesis that closes a given count of open ones, and what follows it. -/
def readName : Nat → List Char → Option (List Char × List Char)
  | _, [] =>
      none
  | depth, ')' :: rest =>
      if depth ≤ 1 then
        some ([], rest)
      else
        (readName (depth - 1) rest).map fun (name, rest) => (')' :: name, rest)
  | depth, '(' :: rest =>
      (readName (depth + 1) rest).map fun (name, rest) => ('(' :: name, rest)
  | depth, character :: rest =>
      (readName depth rest).map fun (name, rest) => (character :: name, rest)

/-- The selector at the front of a conversion, and what follows it. -/
def readSelector : List Char → Selector × List Char
  | '(' :: rest =>
      match readName 1 rest with
      | some (name, rest) =>
          (.named (String.ofList name), rest)
      | none =>
          (.unclosed, [])
  | characters =>
      (.next, characters)

/-- The size at the front of a text, and what follows it. -/
def readSize : List Char → Size × List Char
  | '*' :: rest =>
      (.asked, rest)
  | characters =>
      let digits := characters.takeWhile Char.isDigit
      if digits = [] then
        (.absent, characters)
      else
        (.number (Number.ofDigits digits), characters.dropWhile Char.isDigit)

/-- The precision at the front of a text, and what follows it; a point alone stands for zero. -/
def readPrecision : List Char → Size × List Char
  | '.' :: rest =>
      match readSize rest with
      | (.absent, rest) =>
          (.number 0, rest)
      | found =>
          found
  | characters =>
      (.absent, characters)

/-- The text behind a letter for the size of a number, which says nothing here. -/
def skipSizeLetter : List Char → List Char
  | letter :: rest =>
      if ['h', 'l', 'L'].contains letter then
        rest
      else
        letter :: rest
  | [] =>
      []

/-- The conversion behind a percent sign. -/
def read (characters : List Char) : Conversion :=
  let (selector, rest) := readSelector characters
  let flags := (rest.takeWhile Flags.isFlag).foldl Flags.turnOn {}
  let (width, rest) := readSize (rest.dropWhile Flags.isFlag)
  let (precision, rest) := readPrecision rest
  match skipSizeLetter rest with
  | [] =>
      ⟨selector, flags, width, precision, none, []⟩
  | letter :: following =>
      ⟨selector, flags, width, precision, some letter, following⟩

end Conversion

namespace Piece

/-- At most a given count of pieces of a text. -/
def readAll : Nat → List Char → List Piece
  | 0, _
  | _ + 1, [] =>
      []
  | fuel + 1, '%' :: '%' :: characters =>
      .literal '%' :: readAll fuel characters
  | fuel + 1, '%' :: characters =>
      let found := Conversion.read characters
      .conversion found :: readAll fuel found.following
  | fuel + 1, character :: characters =>
      .literal character :: readAll fuel characters

/-- The pieces of a template. -/
def ofTemplate (template : String) : List Piece :=
  readAll template.length template.toList

end Piece

/-- The values that are left for a template. -/
structure Supply where
  /-- The values by name, where they are given so. -/
  named : Option (List (String × Value))
  /-- The values that the next conversions take in order. -/
  pending : List Value

namespace Supply

/-- The supply of given values: a record alone gives its fields by name. -/
def ofValues : List Value → Supply
  | [.record (field :: fields)] =>
      ⟨some (field :: fields), [.record (field :: fields)]⟩
  | values =>
      ⟨none, values⟩

/-- Take the next value. -/
def take (supply : Supply) : Except TemplateFault (Value × Supply) :=
  match supply.pending with
  | [] =>
      .error .tooFewValues
  | value :: pending =>
      .ok (value, { supply with pending := pending })

/-- Make the value that a selector names the next one. -/
def select (supply : Supply) : Selector → Except TemplateFault Supply
  | .next =>
      .ok supply
  | .named name =>
      match supply.named with
      | none =>
          .error .namesNeeded
      | some fields =>
          match fields.lookup name with
          | some value =>
              .ok { supply with pending := [value] }
          | none =>
              .error (.unknownName name)
  | .unclosed =>
      match supply.named with
      | none =>
          .error .namesNeeded
      | some _ =>
          .error .incompleteName

/-- Take the next value as an integer whose magnitude a machine word can hold. -/
def takeSize
    (supply : Supply)
    (carrier : String)
    (bound : Nat) :
    Except TemplateFault (Int × Supply) := do
  let (value, supply) ← supply.take
  match value.integer? with
  | none =>
      .error .sizeNeeded
  | some size =>
      if -bound ≤ size ∧ size < bound then
        return (size, supply)
      else
        .error (.sizeRange carrier)

end Supply

/-- Beyond every width that a conversion can have. -/
def widthBound : Nat :=
  Number.powerOfTwo 63

/-- Beyond every precision that a conversion can have. -/
def precisionBound : Nat :=
  Number.powerOfTwo 31

/-- Beyond every width for which there is memory. -/
def memoryBound : Nat :=
  Number.powerOfTwo 40

/-- What stands between the percent sign and the letter of a conversion once its sizes are known. -/
structure Layout where
  flags : Flags
  width : Nat
  precision : Option Nat
  deriving Repr, DecidableEq

namespace Layout

/-- The width of a conversion with its flags: a width below zero aligns to the left. -/
def takeWidth
    (flags : Flags)
    (width : Size)
    (supply : Supply) :
    Except TemplateFault (Flags × Nat × Supply) :=
  match width with
  | .absent =>
      .ok (flags, 0, supply)
  | .number width =>
      if width < widthBound then
        .ok (flags, width, supply)
      else
        .error .widthRange
  | .asked => do
      let (width, supply) ← supply.takeSize "ssize_t" widthBound
      return ({ flags with leftAligned := flags.leftAligned || width < 0 }, width.natAbs, supply)

/-- The precision of a conversion: one below zero stands for zero. -/
def takePrecision
    (precision : Size)
    (supply : Supply) :
    Except TemplateFault (Option Nat × Supply) :=
  match precision with
  | .absent =>
      .ok (none, supply)
  | .number precision =>
      if precision < precisionBound then
        .ok (some precision, supply)
      else
        .error .precisionRange
  | .asked => do
      let (precision, supply) ← supply.takeSize "int" precisionBound
      return (some precision.toNat, supply)

/-- The characters that fill a text up to the width. -/
def fill (layout : Layout) (character : Char) (characters : List Char) : List Char :=
  List.replicate (layout.width - characters.length) character

/-- Fill a text up to the width with blanks. -/
def pad (layout : Layout) (characters : List Char) : List Char :=
  if layout.flags.leftAligned then
    characters ++ layout.fill ' ' characters
  else
    layout.fill ' ' characters ++ characters

/-- A text cut at the precision and filled up to the width. -/
def showText (layout : Layout) (text : String) : List Char :=
  layout.pad
    (match layout.precision with
    | some precision =>
        text.toList.take precision
    | none =>
        text.toList)

/-- A number filled up to the width: zeros stand behind its sign and the mark of its base. -/
def showNumber (layout : Layout) (sign mark digits : List Char) : List Char :=
  let front :=
    (if sign ≠ [] then
      sign
    else if layout.flags.signed then
      ['+']
    else if layout.flags.spaced then
      [' ']
    else
      []) ++ mark
  if layout.flags.zeroFilled && !layout.flags.leftAligned then
    front ++ layout.fill '0' (front ++ digits) ++ digits
  else
    layout.pad (front ++ digits)

/-- The mark of a base, and the base, that a letter stands for. -/
def baseOf : Char → List Char × Nat
  | 'x' =>
      (['0', 'x'], 16)
  | 'X' =>
      (['0', 'X'], 16)
  | 'o' =>
      (['0', 'o'], 8)
  | _ =>
      ([], 10)

/-- A number in the base of a letter, with at least as many digits as the precision asks for. -/
def showInteger (layout : Layout) (letter : Char) (value : Int) : List Char :=
  let (mark, base) := baseOf letter
  let digits := Nat.toDigits base value.natAbs
  let digits := if letter = 'X' then digits.map Char.toUpper else digits
  let zeros := List.replicate (layout.precision.getD 0 - digits.length) '0'
  layout.showNumber (Number.Double.signOf (value < 0))
    (if layout.flags.alternate then mark else []) (zeros ++ digits)

/-- The style that a letter stands for. -/
def styleOf (letter : Char) : Number.Style :=
  if letter = 'f' ∨ letter = 'F' then
    .fixed
  else if letter = 'e' ∨ letter = 'E' then
    .scientific
  else
    .general

/-- The precision of a double where none is given. -/
def defaultPrecision : Nat :=
  6

/-- A double in the style of a letter. -/
def showReal (layout : Layout) (letter : Char) (value : Number.Double) : List Char :=
  let digits :=
    value.write (styleOf letter) (layout.precision.getD defaultPrecision) layout.flags.alternate
  let digits := if letter.isUpper then digits.map Char.toUpper else digits
  match digits with
  | '-' :: digits =>
      layout.showNumber ['-'] [] digits
  | digits =>
      layout.showNumber [] [] digits

end Layout

/-- The value as an integer: the fraction of a double is cut off. -/
def wholeOf (letter : Char) (value : Value) : Except TemplateFault Int :=
  match value with
  | .real (.finite negative significand exponent) =>
      .ok (Number.Double.truncate negative significand exponent)
  | .real (.infinite _) =>
      .error .infiniteInteger
  | .real .notNumber =>
      .error .notNumberInteger
  | value =>
      match value.integer? with
      | some value =>
          .ok value
      | none =>
          .error (.numberNeeded letter value.kind)

/-- The value as an integer, which it must be. -/
def integerOf (letter : Char) (value : Value) : Except TemplateFault Int :=
  match value.integer? with
  | some value =>
      .ok value
  | none =>
      .error (.integerNeeded letter value.kind)

/-- The value as a double. -/
def realOf (value : Value) : Except TemplateFault Number.Double :=
  match value with
  | .real value =>
      .ok value
  | value =>
      match value.integer? with
      | none =>
          .error (.realNeeded value.kind)
      | some value =>
          match Number.Double.ofInt value with
          | .infinite _ =>
              .error .realRange
          | value =>
              .ok value

/-- The value as one character: a text of that length, or a code point. -/
def characterOf (value : Value) : Except TemplateFault Char :=
  match value with
  | .text text =>
      match text.toList with
      | [character] =>
          .ok character
      | _ =>
          .error .characterNeeded
  | value =>
      match value.integer? with
      | none =>
          .error .characterNeeded
      | some value =>
          if 0 ≤ value ∧ value < 0x110000 then
            .ok (Char.ofNat value.toNat)
          else
            .error .characterRange

/-- Beyond every precision that an integer can be written with. -/
def digitsBound : Nat :=
  precisionBound - 3

/-- An integer in the base of a letter, unless its precision is too great. -/
def convertInteger
    (layout : Layout)
    (letter : Char)
    (value : Int) :
    Except TemplateFault (List Char) :=
  if digitsBound ≤ layout.precision.getD 0 then
    .error .digitsRange
  else
    .ok (layout.showInteger letter value)

/-- The forms that a conversion gives to a value. -/
inductive Form where
  | text
  | quoted
  | quotedAscii
  | whole
  | based
  | real
  | character
  deriving Repr, DecidableEq

namespace Form

/-- The form that a letter asks for. -/
def ofLetter? (letter : Char) : Option Form :=
  if letter = 's' then
    some .text
  else if letter = 'r' then
    some .quoted
  else if letter = 'a' then
    some .quotedAscii
  else if ['d', 'i', 'u'].contains letter then
    some .whole
  else if ['x', 'X', 'o'].contains letter then
    some .based
  else if ['e', 'E', 'f', 'F', 'g', 'G'].contains letter then
    some .real
  else if letter = 'c' then
    some .character
  else
    none

/-- A value in a form that a letter asks for. -/
def convert
    (form : Form)
    (layout : Layout)
    (letter : Char)
    (value : Value) :
    Except TemplateFault (List Char) :=
  match form with
  | .text =>
      .ok (layout.showText value.shown)
  | .quoted =>
      .ok (layout.showText value.shownQuoted)
  | .quotedAscii =>
      .ok (layout.showText (Text.asciiOnly value.shownQuoted))
  | .whole => do
      convertInteger layout letter (← wholeOf letter value)
  | .based => do
      convertInteger layout letter (← integerOf letter value)
  | .real => do
      return layout.showReal letter (← realOf value)
  | .character => do
      return layout.pad [← characterOf value]

end Form

/-- The layout of a conversion whose sizes are taken from a supply. -/
def Conversion.takeLayout
    (conversion : Conversion)
    (supply : Supply) :
    Except TemplateFault (Layout × Supply) := do
  let (flags, width, supply) ← Layout.takeWidth conversion.flags conversion.width supply
  let (precision, supply) ← Layout.takePrecision conversion.precision supply
  return (⟨flags, width, precision⟩, supply)

/-- The index of a conversion's letter in a template with a given length. -/
def Conversion.letterIndex (conversion : Conversion) (length : Nat) : Nat :=
  length - conversion.following.length - 1

/-- What a conversion of a template shows, and the values that it leaves. -/
def Conversion.show
    (conversion : Conversion)
    (length : Nat)
    (supply : Supply) :
    Except TemplateFault (List Char × Supply) := do
  let supply ← supply.select conversion.selector
  let (layout, supply) ← conversion.takeLayout supply
  match conversion.letter with
  | none =>
      .error .incomplete
  | some letter =>
      let (value, supply) ← supply.take
      match Form.ofLetter? letter with
      | none =>
          .error (.unsupported letter (conversion.letterIndex length))
      | some form =>
          if memoryBound ≤ layout.width then do
            let _ ← form.convert { layout with width := 0 } letter value
            .error .noMemory
          else
            return (← form.convert layout letter value, supply)

/--
What pieces of a template with a given length show with the values of a supply,
all of which must be taken if given in order.
-/
def fillPieces (length : Nat) : List Piece → Supply → Except TemplateFault (List Char)
  | [], supply =>
      if supply.named.isNone ∧ ¬ supply.pending.isEmpty then
        .error .tooManyValues
      else
        .ok []
  | .literal character :: pieces, supply => do
      return character :: (← fillPieces length pieces supply)
  | .conversion conversion :: pieces, supply => do
      let (shown, supply) ← conversion.show length supply
      return shown ++ (← fillPieces length pieces supply)

/-- The message of a template; without values the template is the message as it stands. -/
def fill (template : String) (values : List Value) : Except TemplateFault String :=
  if values.isEmpty then
    .ok template
  else do
    let pieces := Piece.ofTemplate template
    return String.ofList (← fillPieces template.length pieces (Supply.ofValues values))

end CommandConsole.Log
