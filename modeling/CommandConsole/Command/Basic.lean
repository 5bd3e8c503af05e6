namespace CommandConsole

/-!
# Commands

A command has a name, declared parameters, two descriptions and the action it
performs. Its usage is its name followed by its parameters, in round brackets
where they are required and in square ones where they are optional.
-/

/-- One declared parameter of a command. -/
structure Parameter where
  name : String
  /-- Whether the parameter is bound to the empty text where the line ends before it. -/
  optional : Bool := false
  /-- Whether a value that starts with a double quote extends over several words. -/
  quotable : Bool := true
  /-- Whether a word that names a variable stands for the variable's value. -/
  resolves : Bool := true
  deriving Repr, DecidableEq

/-- A parameter as the usage of its command shows it. -/
def Parameter.usage (parameter : Parameter) : String :=
  if parameter.optional then
    "[" ++ parameter.name ++ "]"
  else
    "(" ++ parameter.name ++ ")"

/-- The commands that every session offers. -/
inductive Builtin where
  | help
  | version
  | set
  | get
  | listVariables
  | file
  | exit
  deriving Repr, DecidableEq

/-- What the commands of a host program can do with the text of their parameters. -/
inductive Extension where
  /-- Nothing but reply. -/
  | echo
  /-- Request a stop. -/
  | stop
  /-- Poll for a stop request. -/
  | check
  /-- Put the parameters in front of the pending lines. -/
  | queue
  /-- Fail. -/
  | fail
  /-- Reject the command's name. -/
  | reject
  /-- Fail as the operating system does. -/
  | systemFault
  /-- Fail as on a value that cannot be used. -/
  | unusableValue
  deriving Repr, DecidableEq

/-- What a command does once its parameters are bound. -/
inductive Action where
  | builtin (command : Builtin)
  | extension (extension : Extension)
  deriving Repr, DecidableEq

/-- One command that a line can name. -/
structure Command where
  name : String
  parameters : List Parameter := []
  shortDescription : String := ""
  longDescription : String := ""
  action : Action := .extension .echo
  deriving Repr, DecidableEq

namespace Command

/-- The command's name followed by its parameters. -/
def usage (command : Command) : String :=
  " ".intercalate (command.name :: command.parameters.map Parameter.usage)

/-- The line above and below a long description. -/
def separator : String :=
  String.ofList (List.replicate 72 '=')

/-- The usage above the framed long description. -/
def detail (command : Command) : String :=
  command.usage ++ ":\n" ++ separator ++ "\n" ++ command.longDescription ++ "\n" ++ separator

/-- The usage above the indented short description. -/
def summary (command : Command) : String :=
  command.usage ++ ":\n\t" ++ command.shortDescription

end Command

end CommandConsole
