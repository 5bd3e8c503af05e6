import CommandConsole.Command.Basic

namespace CommandConsole

/-!
# Replies

What a command that succeeded has to tell, as a cause with its values. Every
reply has a message; all but that of a blank line have a title and named data.
-/

/-- One value among the data of a reply. -/
inductive Datum where
  | text (value : String)
  | number (value : Int)
  | texts (values : List String)
  | pairs (values : List (String × String))
  deriving Repr, DecidableEq

/-- The reply of a command that succeeded. -/
inductive Reply where
  /-- The line was blank. -/
  | blank
  /-- One command was described. -/
  | detail (command : Command)
  /-- All commands were listed. -/
  | listing (commands : List Command)
  /-- The version was shown. -/
  | versionShown (version : String)
  /-- A variable was set. -/
  | assigned (key value : String)
  /-- The value of a variable was shown. -/
  | valueShown (key value : String)
  /-- All variables were listed. -/
  | variablesListed (entries : List (String × String))
  /-- The lines of a command file were queued. -/
  | queued (path : String) (count : Nat)
  /-- The end of the program was requested. -/
  | exited (code : Int)
  /-- A host's command did its work. -/
  | performed (title : String) (arguments : List String)
  deriving Repr, DecidableEq

namespace Reply

/-- The message of a shown variable. -/
def valueMessage (key value : String) : String :=
  "Variable \"" ++ key ++ "\": " ++ value

/-- The line of a variable in a listing. -/
def variableLine (entry : String × String) : String :=
  "\t" ++ entry.1 ++ ": " ++ entry.2

/-- The arguments of a host's command as one text. -/
def joinArguments (arguments : List String) : String :=
  "|".intercalate arguments

/-- The message of a reply. -/
def message : Reply → String
  | .blank
  | .assigned _ _
  | .exited _ =>
      ""
  | .detail command =>
      command.detail
  | .listing commands =>
      "\n".intercalate (commands.map Command.summary)
  | .versionShown version =>
      "CLI Version: " ++ version
  | .valueShown key value =>
      valueMessage key value
  | .variablesListed entries =>
      "\n".intercalate (entries.map variableLine)
  | .queued path count =>
      "Queued " ++ toString count ++ " commands from " ++ path
  | .performed _ arguments =>
      joinArguments arguments

/-- The title of a reply, which only that of a blank line lacks. -/
def title? : Reply → Option String
  | .blank =>
      none
  | .detail _ =>
      some "help_detail"
  | .listing _ =>
      some "help_list"
  | .versionShown _ =>
      some "version"
  | .assigned _ _ =>
      some "set"
  | .valueShown _ _ =>
      some "get"
  | .variablesListed _ =>
      some "variables"
  | .queued _ _ =>
      some "file"
  | .exited _ =>
      some "exit"
  | .performed title _ =>
      some title

/-- The named data of a reply in order. -/
def data : Reply → List (String × Datum)
  | .blank =>
      []
  | .detail command =>
      [("command", .text command.name)]
  | .listing commands =>
      [("commands", .texts (commands.map Command.name))]
  | .versionShown version =>
      [("version", .text version)]
  | .assigned key value
  | .valueShown key value =>
      [("variable", .text key), ("value", .text value)]
  | .variablesListed entries =>
      [("variables", .pairs entries)]
  | .queued path count =>
      [("path", .text path), ("count", .number count)]
  | .exited code =>
      [("exit_code", .number code)]
  | .performed _ arguments =>
      [("params", .texts arguments)]

end Reply

end CommandConsole
