import CommandConsole.Command.Builtin
import CommandConsole.Completion
import CommandConsole.FileSystem.Content
import CommandConsole.Host
import CommandConsole.Invocation

namespace CommandConsole

/-!
# What commands do

Every action is a script that ends in a completion. It sees the registry, the
variables and the host, and never the pending lines, so what a command does
cannot depend on what waits behind it.
-/

/-- What a command can see of its session. -/
structure Scope where
  registry : Registry
  store : Variables
  deriving Repr, DecidableEq

namespace Builtin

/-- Describe one command, or list all of them where no name is given. -/
def performHelp (scope : Scope) (name : String) : Script Completion :=
  if name = "" then do
    let commands := scope.registry.commands
    .perform (commands.flatMap fun command => [.poll, .log (.summaryListed command.summary)])
    pure ⟨.none, .listing commands⟩
  else do
    let command ← .ofExcept (scope.registry.lookup name)
    .log (.detailShown command.detail)
    pure ⟨.none, .detail command⟩

/-- Show the version. -/
def performVersion (host : Host) : Script Completion := do
  .log (.versionShown host.version)
  pure ⟨.none, .versionShown host.version⟩

/-- Set a variable. -/
def performSet (key value : String) : Script Completion := do
  .log (.variableSet key)
  pure ⟨.assign key value, .assigned key value⟩

/-- Show one variable. -/
def performGet (scope : Scope) (key : String) : Script Completion := do
  let value ← .ofExcept (scope.store.get key)
  .log (.variableShown (Reply.valueMessage key value))
  pure ⟨.none, .valueShown key value⟩

/-- List all variables. -/
def performVariables (scope : Scope) : Script Completion := do
  let entries := scope.store.entries
  .perform (entries.flatMap fun entry => [.poll, .log (.variableListed (Reply.variableLine entry))])
  pure ⟨.none, .variablesListed entries⟩

/-- Queue the lines of a file that was read to its end. -/
def queueContent (path : String) (content : FileSystem.Content) : Except Fault Completion :=
  match content.obstacle with
  | some (.undecodable defect) =>
      .error (.undecodableFile path defect)
  | some (.unreadable fault) =>
      .error (.system fault)
  | none =>
      .ok ⟨.queueAhead content.lines, .queued path content.lines.length⟩

/-- The lines of a file are queued as they are, and counted. -/
theorem eq_of_queueContent
    {path : String}
    {content : FileSystem.Content}
    {completion : Completion}
    (queued : queueContent path content = .ok completion) :
    completion = ⟨.queueAhead content.lines, .queued path content.lines.length⟩ := by
  unfold queueContent at queued
  split at queued
  · cases queued
  · cases queued
  · exact (Except.ok.inj queued).symm

/-- Read a command file, polling before each of its lines, and queue the lines. -/
def performFile (host : Host) (argument : String) : Script Completion := do
  let path := FileSystem.Path.ofText argument
  let readout ← .ofExcept (host.read path)
  let content := FileSystem.Content.ofReadout readout
  .perform (content.lines.flatMap fun line => [.poll, .log (.lineRead line)])
  .ofExcept (queueContent path.text content)

/-- End the program, or record that it was asked to end. -/
def performExit (host : Host) : Script Completion := do
  .log .exiting
  if host.exitEnds then
    .fail (.exit host.exitCode)
  else
    pure ⟨.recordExit host.exitCode, .exited host.exitCode⟩

/-- Perform a built-in command. -/
def perform
    (command : Builtin)
    (scope : Scope)
    (host : Host)
    (arguments : List String) :
    Script Completion :=
  let first := arguments.getD 0 ""
  match command with
  | .help =>
      performHelp scope first
  | .version =>
      performVersion host
  | .set =>
      performSet first (arguments.getD 1 "")
  | .get =>
      performGet scope first
  | .listVariables =>
      performVariables scope
  | .file =>
      performFile host first
  | .exit =>
      performExit host

end Builtin

namespace Extension

/-- Perform what a host's command does. -/
def perform
    (extension : Extension)
    (commandName : String)
    (arguments : List String) :
    Script Completion :=
  let text := Reply.joinArguments arguments
  match extension with
  | .echo =>
      pure ⟨.none, .performed "echo" arguments⟩
  | .stop =>
      pure ⟨.requestStop, .performed "stop" arguments⟩
  | .check => do
      .polls 1
      pure ⟨.none, .performed "check" arguments⟩
  | .queue =>
      pure ⟨.queueAhead arguments, .performed "queue" arguments⟩
  | .fail =>
      .fail (.failed text)
  | .reject =>
      .fail
        (if text = "" then
          .unknownCommand commandName
        else
          .rejectedCommand commandName text)
  | .systemFault =>
      .fail (.system (.other text))
  | .unusableValue =>
      .fail (.unusableValue text)

end Extension

/-- Perform an invocation. -/
def Invocation.perform
    (invocation : Invocation)
    (scope : Scope)
    (host : Host) :
    Script Completion :=
  match invocation.command.action with
  | .builtin command =>
      command.perform scope host invocation.arguments
  | .extension extension =>
      extension.perform invocation.command.name invocation.arguments

/-- Interpret a line: find its invocation and perform it; a blank line does nothing. -/
def Scope.interpret (scope : Scope) (host : Host) (line : String) : Script Completion := do
  match ← Invocation.ofLine? scope.registry scope.store line with
  | none =>
      pure ⟨.none, .blank⟩
  | some invocation =>
      invocation.perform scope host

end CommandConsole
