import CommandConsole.FileSystem.Path
import CommandConsole.SystemFault

namespace CommandConsole.FileSystem

/-!
# Directory trees

The files and directories below a working directory, and the way in which a
path leads to one of them. Names are followed from left to right: each is
looked up in the directory that the ones before it lead to, so a path may fail
at a name in its middle. Nothing is known of what lies outside the working
directory but that the way up from it leads through directories.
-/

/-- What stands at a place of a tree. -/
inductive Entry where
  | file (content : List UInt8)
  | directory
  deriving Repr, DecidableEq

/-- Entries by the names that lead to them from the working directory, the later ones first. -/
structure Tree where
  entries : List (List String × Entry) := []
  deriving Repr, DecidableEq

/-- Where a path has led so far. -/
inductive Place where
  /-- Below the working directory, or at it where there are no names. -/
  | inside (names : List String)
  /-- In a directory above or beside the working directory. -/
  | outside
  deriving Repr, DecidableEq

namespace Tree

/-- The greatest count of bytes in one name. -/
def nameByteLimit : Nat :=
  255

/-- The count of bytes from which on a path is too long. -/
def pathByteLimit : Nat :=
  4096

/-- Add an entry; the last one added at a place counts. -/
def add (tree : Tree) (names : List String) (entry : Entry) : Tree where
  entries :=
    (names, entry) :: tree.entries

/--
What stands at given names below the working directory. The names that lead to
an entry lead through directories.
-/
def entry? (tree : Tree) (names : List String) : Option Entry :=
  match tree.entries.lookup names with
  | some entry =>
      some entry
  | none =>
      if names = [] ∨ tree.entries.any fun entry => names.isPrefixOf entry.1 then
        some .directory
      else
        none

/-- Follow one name from a place that a path has led to. -/
def follow
    (tree : Tree)
    (path : String)
    (place : Place)
    (name : String) :
    Except SystemFault Place :=
  match place with
  | .outside =>
      if name = ".." then
        .ok .outside
      else if nameByteLimit < name.utf8ByteSize then
        .error (.nameTooLong path)
      else
        .error (.missing path)
  | .inside names =>
      match tree.entry? names with
      | some .directory =>
          if name = ".." then
            .ok (if names = [] then .outside else .inside names.dropLast)
          else if nameByteLimit < name.utf8ByteSize then
            .error (.nameTooLong path)
          else if (tree.entry? (names ++ [name])).isSome then
            .ok (.inside (names ++ [name]))
          else
            .error (.missing path)
      | _ =>
          .error (.notDirectory path)

/-- The place to which a path leads. -/
def locate (tree : Tree) (path : Path) : Except SystemFault Place :=
  let start :=
    match path.root with
    | .workingDirectory =>
        .inside []
    | _ =>
        .outside
  path.names.foldlM (tree.follow path.text) start

/-- The content of the file to which a path leads. -/
def openFile (tree : Tree) (path : Path) : Except SystemFault (List UInt8) :=
  if pathByteLimit ≤ path.text.utf8ByteSize then
    .error (.nameTooLong path.text)
  else
    match tree.locate path with
    | .error fault =>
        .error fault
    | .ok .outside =>
        .error (.isDirectory path.text)
    | .ok (.inside names) =>
        match tree.entry? names with
        | some (.file content) =>
            .ok content
        | _ =>
            .error (.isDirectory path.text)

end Tree

end CommandConsole.FileSystem
