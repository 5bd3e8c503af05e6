import CommandConsole.Fault
import CommandConsole.FileSystem.Path
import CommandConsole.FileSystem.Readout

namespace CommandConsole

/-!
# Hosts

What a session needs of the program and the system around it. Reading a file is
a function of its path, so the files do not change while a session runs.
-/

/-- The program around a session: its files, its version and how it ends. -/
structure Host where
  /-- Open the file with a path and read it as far as it can be read. -/
  openFile : FileSystem.Path → Except FileSystem.OpenFault FileSystem.Readout
  version : String
  exitCode : Int
  /-- Whether a request to exit ends the program; if not, its code is recorded. -/
  exitEnds : Bool

/--
Read the file with a path. The path is encoded first, and a null character in it
is refused before the operating system is asked for the file.
-/
def Host.read (host : Host) (path : FileSystem.Path) : Except Fault FileSystem.Readout :=
  match host.openFile path, path.text.toList.contains '\x00' with
  | .error (.unencodable text), _ =>
      .error (.unusableValue text)
  | _, true =>
      .error .nullInPath
  | .error (.system fault), false =>
      .error (.system fault)
  | .ok readout, false =>
      .ok readout

end CommandConsole
