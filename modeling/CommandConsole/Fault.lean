import CommandConsole.SystemFault
import CommandConsole.Text.Utf8

namespace CommandConsole

/-!
# Faults

Everything that can keep a command from succeeding, as a cause with the values
it is about. `Fault.message` holds every wording. `Fault.isHandled` tells the
faults that the read loop logs and survives from those that leave it.
-/

/-- Why a command, a registration or a queue operation failed. -/
inductive Fault where
  /-- No command has the name. -/
  | unknownCommand (name : String)
  /-- A command refused its own name with a notice of its own. -/
  | rejectedCommand (name notice : String)
  /-- A command name has more characters than the limit. -/
  | nameTooLong (name : String) (limit : Int)
  /-- A command with the same upper-cased name is registered already. -/
  | duplicateCommand (key : String)
  /-- The line ended before a required parameter. -/
  | missingParameter (command parameter : String)
  /-- Words are left over after the last parameter; the first of them is named. -/
  | unexpectedParameter (command word : String)
  /-- The variable was never set. -/
  | undefinedVariable (key : String)
  /-- A stop request was seen. -/
  | stopped
  /-- A line has more characters than the limit. -/
  | lineTooLong (length : Nat) (limit : Int)
  /-- No line is pending. -/
  | queueEmpty
  /-- A command file is not UTF-8. -/
  | undecodableFile (path : String) (defect : Text.Utf8.Defect)
  /-- A command failed for a reason of its own. -/
  | failed (text : String)
  /-- The operating system refused an operation. -/
  | system (fault : SystemFault)
  /-- A value cannot be used at all. -/
  | unusableValue (text : String)
  /-- The program is to end with an exit code. -/
  | exit (code : Int)
  deriving Repr, DecidableEq

namespace Fault

/-- The wording of a fault. -/
def message : Fault → String
  | .unknownCommand name =>
      "Invalid command: " ++ name
  | .rejectedCommand _ notice =>
      notice
  | .nameTooLong name limit =>
      "Command name longer than " ++ toString limit ++ " characters: " ++ name
  | .duplicateCommand key =>
      "Command already registered: " ++ key
  | .missingParameter command parameter =>
      "Missing parameter (" ++ parameter ++ ") for " ++ command
  | .unexpectedParameter command word =>
      "Unexpected parameter for " ++ command ++ ": " ++ word
  | .undefinedVariable key =>
      "Undefined variable: " ++ key
  | .stopped =>
      "Command stopped"
  | .lineTooLong length limit =>
      "Command line of " ++ toString length ++ " characters exceeds " ++ toString limit
  | .queueEmpty =>
      "Command queue is empty"
  | .undecodableFile path defect =>
      "Cannot decode command file " ++ path ++ ": " ++ defect.message
  | .failed text =>
      text
  | .system fault =>
      fault.message
  | .unusableValue text =>
      text
  | .exit code =>
      toString code

/-- The fault of a path that holds a null character. -/
def nullInPath : Fault :=
  .unusableValue "embedded null byte"

/-- Whether the read loop logs the fault and goes on. -/
def isHandled : Fault → Bool
  | .unusableValue _
  | .exit _ =>
      false
  | _ =>
      true

end Fault

end CommandConsole
