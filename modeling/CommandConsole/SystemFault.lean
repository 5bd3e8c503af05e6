import CommandConsole.Text.Quoted

namespace CommandConsole

/-!
# Faults of the operating system

The reasons for which a file cannot be opened, and the wording of each. A
fault that names a path shows it in quoted form.
-/

/-- Why the operating system refused an operation. -/
inductive SystemFault where
  | missing (path : String)
  | isDirectory (path : String)
  | notDirectory (path : String)
  | nameTooLong (path : String)
  | other (text : String)
  deriving Repr, DecidableEq

namespace SystemFault

/-- The kind of a fault as it is shown in log records. -/
def label : SystemFault → String
  | .missing _ =>
      "FileNotFoundError"
  | .isDirectory _ =>
      "IsADirectoryError"
  | .notDirectory _ =>
      "NotADirectoryError"
  | .nameTooLong _
  | .other _ =>
      "OSError"

/-- The wording of a fault. -/
def message : SystemFault → String
  | .missing path =>
      "[Errno 2] No such file or directory: " ++ Text.quoted path
  | .isDirectory path =>
      "[Errno 21] Is a directory: " ++ Text.quoted path
  | .notDirectory path =>
      "[Errno 20] Not a directory: " ++ Text.quoted path
  | .nameTooLong path =>
      "[Errno 36] File name too long: " ++ Text.quoted path
  | .other text =>
      text

end SystemFault

end CommandConsole
