import CommandConsole.Settings.Bindings
import CommandConsole.Text.Blank

namespace CommandConsole.Settings

/-!
# Environment files

A file of assignments, one on a line. Blank lines and comments are skipped, a
value may be quoted, and a line that cannot be read is passed over. A value may
refer to other variables as in a shell.
-/

/-- One assignment of a file; a name alone has no value. -/
structure Assignment where
  name : String
  value : Option String
  deriving Repr, DecidableEq

namespace EnvironmentFile

/-- The text with every line ended by a line feed, whichever way it was ended before. -/
def unifyLineEnds : List Char → List Char
  | [] =>
      []
  | '\r' :: '\n' :: rest =>
      '\n' :: unifyLineEnds rest
  | '\r' :: rest =>
      '\n' :: unifyLineEnds rest
  | character :: rest =>
      character :: unifyLineEnds rest

/-- Whether a character is a blank within a line. -/
def isInnerBlank (character : Char) : Bool :=
  Text.isBlank character && character != '\n' && character != '\r'

/-- A text without the blanks in front that are within the line. -/
def skipInnerBlanks (characters : List Char) : List Char :=
  characters.dropWhile isInnerBlank

/-- A text without the rest of its first line, the end of the line included. -/
def skipLine (characters : List Char) : List Char :=
  (characters.dropWhile (· != '\n')).drop 1

/-- The text behind the word that may stand in front of an assignment. -/
def skipExport (characters : List Char) : List Char :=
  match characters with
  | 'e' :: 'x' :: 'p' :: 'o' :: 'r' :: 't' :: rest =>
      if (rest.head?.map isInnerBlank).getD false then
        skipInnerBlanks rest
      else
        characters
  | _ =>
      characters

/-- Whether a character can stand in a name that is not quoted. -/
def isNameCharacter (character : Char) : Bool :=
  character != '=' && character != '#' && !Text.isBlank character

/-- The name at the front of a line, none in front of a comment, and what follows it. -/
def readName (characters : List Char) : Option (Option (List Char) × List Char) :=
  match characters with
  | '#' :: _ =>
      some (none, characters)
  | '\'' :: rest =>
      let name := rest.takeWhile (· != '\'')
      match rest.dropWhile (· != '\'') with
      | _ :: rest =>
          if name = [] then
            none
          else
            some (some name, rest)
      | [] =>
          none
  | _ =>
      let name := characters.takeWhile isNameCharacter
      if name = [] then
        none
      else
        some (some name, characters.dropWhile isNameCharacter)

/-- The text up to the first quote that no backslash escapes, and what follows it. -/
def readToQuote (quote : Char) : List Char → Option (List Char × List Char)
  | [] =>
      none
  | ['\\'] =>
      none
  | '\\' :: escaped :: rest =>
      (readToQuote quote rest).map fun (value, rest) => ('\\' :: escaped :: value, rest)
  | character :: rest =>
      if character = quote then
        some ([], rest)
      else
        (readToQuote quote rest).map fun (value, rest) => (character :: value, rest)

/-- Replace the escapes that a function knows; any other backslash stays. -/
def replaceEscapes (escape? : Char → Option Char) : List Char → List Char
  | '\\' :: letter :: rest =>
      match escape? letter with
      | some character =>
          character :: replaceEscapes escape? rest
      | none =>
          '\\' :: replaceEscapes escape? (letter :: rest)
  | character :: rest =>
      character :: replaceEscapes escape? rest
  | [] =>
      []
termination_by characters => characters.length

/-- The escapes between single quotes. -/
def singleQuoteEscape? : Char → Option Char
  | '\\' =>
      some '\\'
  | '\'' =>
      some '\''
  | _ =>
      none

/-- The escapes between double quotes. -/
def doubleQuoteEscape? : Char → Option Char
  | '\\' =>
      some '\\'
  | '\'' =>
      some '\''
  | '"' =>
      some '"'
  | 'a' =>
      some '\x07'
  | 'b' =>
      some '\x08'
  | 'f' =>
      some '\x0c'
  | 'n' =>
      some '\n'
  | 'r' =>
      some '\r'
  | 't' =>
      some '\t'
  | 'v' =>
      some '\x0b'
  | _ =>
      none

/-- A value without the comment that starts behind its first blanks in front of a number sign. -/
def dropComment : List Char → List Char
  | [] =>
      []
  | character :: rest =>
      if Text.isBlank character ∧ (rest.dropWhile Text.isBlank).head? = some '#' then
        []
      else
        character :: dropComment rest

/-- A value without quotes: what its line holds in front of a comment, without blanks around. -/
def plainValue (characters : List Char) : List Char :=
  Text.trimEnd (skipInnerBlanks (dropComment (characters.takeWhile (· != '\n'))))

/-- The value behind an equals sign, and what follows it. -/
def readValue (characters : List Char) : Option (List Char × List Char) :=
  match skipInnerBlanks characters with
  | '\'' :: rest =>
      (readToQuote '\'' rest).map fun (value, rest) =>
        (replaceEscapes singleQuoteEscape? value, rest)
  | '"' :: rest =>
      (readToQuote '"' rest).map fun (value, rest) =>
        (replaceEscapes doubleQuoteEscape? value, rest)
  | _ =>
      some (plainValue characters, characters.dropWhile (· != '\n'))

/-- The value behind a name, none where no equals sign follows, and what follows it. -/
def readAssigned (characters : List Char) : Option (Option (List Char) × List Char) :=
  match characters with
  | '=' :: rest =>
      (readValue rest).map fun (value, rest) => (some value, rest)
  | _ =>
      some (none, characters)

/-- The text behind a comment at the front of a text, if there is one. -/
def skipComment (characters : List Char) : List Char :=
  match skipInnerBlanks characters with
  | '#' :: rest =>
      rest.dropWhile (· != '\n')
  | _ =>
      characters

/-- The text behind the end of a line, which nothing but blanks may come before. -/
def readLineEnd (characters : List Char) : Option (List Char) :=
  match skipInnerBlanks characters with
  | [] =>
      some []
  | '\n' :: rest =>
      some rest
  | _ =>
      none

/-- The assignment at the front of a text without blanks in front, and the text behind its line. -/
def readLine (characters : List Char) : Option Assignment × List Char :=
  let start := skipExport characters
  match readName start with
  | none =>
      (none, skipLine start)
  | some (name, behindName) =>
      let behindName := skipInnerBlanks behindName
      match readAssigned behindName with
      | none =>
          (none, skipLine behindName)
      | some (value, behindValue) =>
          let behindComment := skipComment behindValue
          match readLineEnd behindComment with
          | none =>
              (none, skipLine behindComment)
          | some rest =>
              (name.map fun name => ⟨String.ofList name, value.map String.ofList⟩, rest)

/-- The assignments of at most a given count of lines. -/
def readLines : Nat → List Char → List Assignment
  | 0, _ =>
      []
  | fuel + 1, characters =>
      match characters.dropWhile Text.isBlank with
      | [] =>
          []
      | start =>
          let (assignment, rest) := readLine start
          assignment.toList ++ readLines fuel rest

/-- A text without the byte order mark that may stand in front of it. -/
def skipByteOrderMark : List Char → List Char
  | '\ufeff' :: rest =>
      rest
  | characters =>
      characters

/-- The assignments of a text in order. -/
def assignments (text : String) : List Assignment :=
  let characters := unifyLineEnds (skipByteOrderMark text.toList)
  readLines (characters.length + 1) characters

/-- A reference to a variable behind its opening, with its default, and what follows it. -/
def readReference (characters : List Char) : Option (String × String × List Char) :=
  let isInName := fun character => character != '\x7d' && character != ':'
  let name := String.ofList (characters.takeWhile isInName)
  match characters.dropWhile isInName with
  | '\x7d' :: rest =>
      some (name, "", rest)
  | ':' :: '-' :: rest =>
      let fallback := String.ofList (rest.takeWhile (· != '\x7d'))
      match rest.dropWhile (· != '\x7d') with
      | _ :: rest =>
          some (name, fallback, rest)
      | [] =>
          none
  | _ =>
      none

/-- A value with its references replaced. -/
def expand (lookUp : String → Option String) : Nat → List Char → List Char
  | fuel + 1, '$' :: '\x7b' :: characters =>
      match readReference characters with
      | some (name, fallback, rest) =>
          ((lookUp name).getD fallback).toList ++ expand lookUp fuel rest
      | none =>
          '$' :: expand lookUp fuel ('\x7b' :: characters)
  | fuel + 1, character :: characters =>
      character :: expand lookUp fuel characters
  | _, _ =>
      []

/-- The value of a name: that of the file so far, or else that of the environment. -/
def valueSoFar?
    (environment : List (String × String))
    (bindings : List (String × Option String))
    (name : String) :
    Option String :=
  match bindings.lookup name with
  | some value =>
      some (value.getD "")
  | none =>
      environment.lookup name

/-- The values of a file's names in the order of their first assignment; the last one counts. -/
def bindings
    (environment : List (String × String))
    (text : String) :
    List (String × Option String) :=
  (assignments text).foldl
    (fun bindings assignment =>
      let value := assignment.value.map fun value =>
        let characters := value.toList
        String.ofList
          (expand (valueSoFar? environment bindings) (characters.length + 1) characters)
      bind bindings assignment.name value)
    []

end EnvironmentFile

end CommandConsole.Settings
