import CommandConsole.Command.Basic

namespace CommandConsole

/-!
# Built-in commands

The declarations of the commands that every session offers, in the order in
which they are registered and listed.
-/

/-- The declaration of a built-in command. -/
def Builtin.command : Builtin → Command
  | .help => {
      name := "HELP"
      parameters := [{ name := "command", optional := true, resolves := false }]
      shortDescription := "Display detailed information about a command."
      longDescription :=
        "Print a detailed description of a command's purpose, use, and other\n" ++
        "such aspects of consideration. A valid command name must be provided.\n" ++
        "If no command is provided, a list of all commands will be shown."
      action := .builtin .help
    }
  | .version => {
      name := "VERSION"
      shortDescription := "Display the version of the MCS CLI."
      longDescription :=
        "Print the currently running version of the Motion Control Software\n" ++
        "command line utility in Semantic Version format."
      action := .builtin .version
    }
  | .set => {
      name := "SET"
      parameters := [{ name := "variable", resolves := false }, { name := "value" }]
      shortDescription := "Set a variable equal to a value."
      longDescription :=
        "Create a variable name that resolves to the provided value in all\n" ++
        "future commands. Variable names are case sensitive."
      action := .builtin .set
    }
  | .get => {
      name := "GET"
      parameters := [{ name := "variable", resolves := false }]
      shortDescription := "Retrieve the value of a variable."
      longDescription :=
        "Retrieve the resolved value of a previously created variable name.\n" ++
        "Variable names are case sensitive."
      action := .builtin .get
    }
  | .listVariables => {
      name := "VARIABLES"
      shortDescription := "Display all variables with their values."
      longDescription :=
        "Print all currently set variable names along with their values."
      action := .builtin .listVariables
    }
  | .file => {
      name := "FILE"
      parameters := [{ name := "path" }]
      shortDescription := "Queue commands listed in the provided file."
      longDescription :=
        "Add commands listed in the provided file to the front of the command\n" ++
        "queue. All queued commands will run first before the user is prompted\n" ++
        "to enter a new manual command. The queue of commands will be cleared\n" ++
        "if interrupted with the `Ctrl-C` hotkey. The file path provided for\n" ++
        "this command must be either an absolute file path or relative to the\n" ++
        "working directory. If the path contains spaces, it should be\n" ++
        "enclosed in double quotes (e.g. \"my file path\")."
      action := .builtin .file
    }
  | .exit => {
      name := "EXIT"
      shortDescription := "Exit the MCS command line utility."
      longDescription :=
        "Gracefully terminate the PMF Motion Control Software command line\n" ++
        "utility, cleaning up resources and closing connections."
      action := .builtin .exit
    }

/-- The built-in commands in listing order. -/
def Builtin.all : List Builtin :=
  [.help, .version, .set, .get, .listVariables, .file, .exit]

end CommandConsole
