import CommandConsole.Text.Split

namespace CommandConsole.FileSystem

/-!
# Paths

A path is a root and the names below it. Empty names and names that are a
single dot say nothing and are dropped when a path is read; two dots are kept,
since where they lead depends on the directories. Exactly two leading slashes
are a root of their own.
-/

/-- Where a path starts. -/
inductive Root where
  | workingDirectory
  | slash
  | doubleSlash
  deriving Repr, DecidableEq

/-- A path in normal form. -/
structure Path where
  root : Root
  names : List String
  deriving Repr, DecidableEq

namespace Path

/-- The root that a text's leading slashes stand for. -/
def rootOf : List Char → Root
  | '/' :: '/' :: '/' :: _ =>
      .slash
  | '/' :: '/' :: _ =>
      .doubleSlash
  | '/' :: _ =>
      .slash
  | _ =>
      .workingDirectory

/-- Whether a piece between slashes names something. -/
def isName (piece : List Char) : Bool :=
  piece ≠ [] && piece ≠ ['.']

/-- The path that a text stands for. -/
def ofText (text : String) : Path :=
  let characters := text.toList
  ⟨rootOf characters, ((Text.splitAtEach '/' characters).filter isName).map String.ofList⟩

/-- The shortest text of a path. -/
def text (path : Path) : String :=
  let names := "/".intercalate path.names
  match path.root with
  | .slash =>
      "/" ++ names
  | .doubleSlash =>
      "//" ++ names
  | .workingDirectory =>
      if path.names = [] then
        "."
      else
        names

end Path

end CommandConsole.FileSystem
