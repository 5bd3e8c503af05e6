import CommandConsole.Line.Span
import CommandConsole.Registry
import CommandConsole.Script
import CommandConsole.Variables

namespace CommandConsole

/-!
# Invocations

A line invokes the command that its first word names, with one argument for
each declared parameter. The words behind the first are handed to the
parameters from left to right; a word may stand for a variable, and a quoted
value may take several words. Every word that a quote span takes is polled
for, so that reading a long span can be stopped.
-/

/-- A command together with one argument for each of its parameters. -/
structure Invocation where
  command : Command
  arguments : List String
  deriving Repr, DecidableEq

namespace Invocation

/-- The text that a parameter sees of a word: the word or the variable it names. -/
def wordValue
    (store : Variables)
    (parameter : Parameter)
    (word : Line.Word) :
    List Char :=
  if parameter.resolves then
    (store.resolve (String.ofList word.text)).toList
  else
    word.text

/-- The argument of one parameter, the words it takes and those it leaves. -/
def readArgument
    (store : Variables)
    (parameter : Parameter)
    (word : Line.Word)
    (following : List Line.Word) :
    Script (String × List Line.Word) :=
  let value := wordValue store parameter word
  if parameter.quotable && Line.Span.opens value then
    let span := Line.Span.read value following
    ⟨List.replicate span.size .poll, .ok (String.ofList span.value, span.rest)⟩
  else
    pure (String.ofList value, following)

/-- The arguments of parameters in order, and the words left over behind them. -/
def bindParameters
    (store : Variables)
    (commandName : String) :
    List Parameter → List Line.Word → Script (List String × List Line.Word)
  | [], words =>
      pure ([], words)
  | parameter :: parameters, [] =>
      if parameter.optional then do
        let (arguments, words) ← bindParameters store commandName parameters []
        pure ("" :: arguments, words)
      else
        .fail (.missingParameter commandName parameter.name)
  | parameter :: parameters, word :: following => do
      let (argument, following) ← readArgument store parameter word following
      let (arguments, words) ← bindParameters store commandName parameters following
      pure (argument :: arguments, words)

/-- The invocation in words that are not empty. -/
def ofWords
    (registry : Registry)
    (store : Variables)
    (first : Line.Word)
    (following : List Line.Word) :
    Script Invocation := do
  let command ← .ofExcept (registry.lookup (String.ofList first.text))
  let (arguments, words) ←
    bindParameters store command.name command.parameters following
  match words with
  | [] =>
      pure ⟨command, arguments⟩
  | word :: _ =>
      .fail (.unexpectedParameter command.name (String.ofList word.text))

/-- The invocation in a line, or none where the line holds no word. -/
def ofLine?
    (registry : Registry)
    (store : Variables)
    (line : String) :
    Script (Option Invocation) :=
  match Line.words line with
  | [] =>
      pure none
  | first :: following =>
      some <$> ofWords registry store first following

end Invocation

end CommandConsole
