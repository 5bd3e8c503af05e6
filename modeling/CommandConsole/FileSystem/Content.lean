import CommandConsole.FileSystem.Readout
import CommandConsole.Text.Blank
import CommandConsole.Text.Split
import CommandConsole.Text.Utf8

namespace CommandConsole.FileSystem

/-!
# Content of command files

The lines of a command file. Only a line feed ends a line; the carriage returns
in front of it are dropped. Bytes are decoded chunk by chunk. Where a chunk has a
defect or cannot be read, the lines that the chunks before it have completed are
still read, while that chunk completes none.
-/

/-- What keeps a command file from being read to its end. -/
inductive Obstacle where
  /-- The bytes are not the form of a text. -/
  | undecodable (defect : Text.Utf8.Defect)
  /-- The operating system gives up the reading. -/
  | unreadable (fault : SystemFault)
  deriving Repr, DecidableEq

/-- What reading a command file yields: its lines, and the obstacle that ended the reading. -/
structure Content where
  lines : List String
  obstacle : Option Obstacle
  deriving Repr, DecidableEq

namespace Content

/-- The count of bytes that are read at once. -/
def chunkSize : Nat :=
  8192

/-- A line without the carriage returns at its end. -/
def trimLine (line : List Char) : String :=
  String.ofList (Text.dropTrailing (· == '\r') line)

/-- The lines of text that was decoded up to the end of a file or up to an obstacle. -/
def ofDecoded (characters : List Char) (obstacle : Option Obstacle) : Content where
  lines :=
    (if obstacle.isNone then Text.lines characters else Text.endedLines characters).map trimLine
  obstacle :=
    obstacle

/-- Read the bytes of a whole file. -/
def ofBytes (bytes : List UInt8) : Content :=
  let (characters, defect) :=
    Text.Utf8.decodeChunks [] (Text.Utf8.chunksOf chunkSize (by decide) bytes)
  ofDecoded characters (defect.map .undecodable)

/-- Read the bytes of a file up to a fault; a defect in them comes before the fault. -/
def ofBytesBefore (fault : SystemFault) (bytes : List UInt8) : Content :=
  match Text.Utf8.decodeAvailable [] (Text.Utf8.chunksOf chunkSize (by decide) bytes) with
  | (characters, .error defect) =>
      ofDecoded characters (some (.undecodable defect))
  | (characters, .ok _) =>
      ofDecoded characters (some (.unreadable fault))

/-- Read what there is of a file. -/
def ofReadout (readout : Readout) : Content :=
  match readout.fault with
  | none =>
      ofBytes readout.bytes
  | some fault =>
      ofBytesBefore fault readout.bytes

end Content

end CommandConsole.FileSystem
