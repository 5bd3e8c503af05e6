import CommandConsole.Text.Hexadecimal
import CommandConsole.Text.Printable

namespace CommandConsole.Text

/-!
# Quoted texts

The form in which a message shows a path. The text stands between two equal
quotes; the quote in use, the backslash and every character that is not
printable are escaped, so the shown form holds no line break and no control
character.
-/

/-- The quote around a text: double where the text holds a single quote and no double one. -/
def enclosingQuote (characters : List Char) : Char :=
  if characters.contains '\'' && !characters.contains '"' then
    '"'
  else
    '\''

/-- The escape of a character by its code point. -/
def escapeByCode (character : Char) : List Char :=
  let code := character.toNat
  if code < 0x100 then
    '\\' :: 'x' :: hexadecimal 2 code
  else if code < 0x10000 then
    '\\' :: 'u' :: hexadecimal 4 code
  else
    '\\' :: 'U' :: hexadecimal 8 code

/-- One character of a text that stands between given quotes. -/
def escapeCharacter (quote character : Char) : List Char :=
  if character = quote ∨ character = '\\' then
    ['\\', character]
  else if character = '\t' then
    ['\\', 't']
  else if character = '\n' then
    ['\\', 'n']
  else if character = '\r' then
    ['\\', 'r']
  else if isPrintable character then
    [character]
  else
    escapeByCode character

/-- A text between quotes, with escapes for all that cannot stand there as itself. -/
def quoted (text : String) : String :=
  let characters := text.toList
  let quote := enclosingQuote characters
  String.ofList (quote :: characters.flatMap (escapeCharacter quote) ++ [quote])

/-- A text with escapes for all that is not ASCII. -/
def asciiOnly (text : String) : String :=
  String.ofList
    (text.toList.flatMap fun character =>
      if character.toNat < 0x80 then [character] else escapeByCode character)

end CommandConsole.Text
