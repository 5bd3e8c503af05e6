import CommandConsole.SystemFault

namespace CommandConsole.FileSystem

/-!
# What is read of a file

A path may have no form in the encoding of file names, and the operating system
may refuse to open it. Of a file that is open it may give up the reading after
any count of bytes.
-/

/-- Why a path cannot be opened. -/
inductive OpenFault where
  /-- The path has no form in the encoding of file names. -/
  | unencodable (text : String)
  /-- The operating system refuses to open the file. -/
  | system (fault : SystemFault)
  deriving Repr, DecidableEq

/-- The bytes that are read of a file, and the fault that ended the reading before its end. -/
structure Readout where
  bytes : List UInt8
  fault : Option SystemFault := none
  deriving Repr, DecidableEq

end CommandConsole.FileSystem
