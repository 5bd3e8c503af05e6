import CommandConsole.Line.Word

namespace CommandConsole.Line

/-!
# Quote spans

A value that starts with a double quote extends to the first word that ends
with one. The spacing between the words of the span is kept, the enclosing
quotes are dropped. Without a closing quote the span takes the rest of the
line, up to its last word.
-/

/-- The character that opens and closes a span. -/
def quotationMark : Char :=
  '"'

/-- Whether a word ends with a quote, and so closes a span that is open. -/
def Word.closes (word : Word) : Bool :=
  word.text.getLast? = some quotationMark

/-- A span that was read: its value, how many words it took, and the words behind it. -/
structure Span where
  value : List Char
  size : Nat
  rest : List Word
  deriving Repr, DecidableEq

namespace Span

/-- Whether a value opens a span. -/
def opens (value : List Char) : Bool :=
  value.head? = some quotationMark

/-- Whether a value that opens a span closes it as well. -/
def closesItself (value : List Char) : Bool :=
  1 < value.length && value.getLast? = some quotationMark

/-- Read the span that a value opens in front of the given words. -/
def read (opening : List Char) (following : List Word) : Span :=
  if closesItself opening then
    ⟨opening.tail.dropLast, 1, following⟩
  else
    let inner := following.takeWhile fun word => !word.closes
    let head := opening.tail ++ inner.flatMap Word.spaced
    match following.dropWhile fun word => !word.closes with
    | [] =>
        ⟨head, inner.length + 1, []⟩
    | closing :: rest =>
        ⟨head ++ closing.spaced.dropLast, inner.length + 2, rest⟩

end Span

end CommandConsole.Line
