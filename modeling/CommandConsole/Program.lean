import CommandConsole.FileSystem.Tree
import CommandConsole.Log.Request
import CommandConsole.Settings.Load
import CommandConsole.Shell

namespace CommandConsole

/-!
# The program

A run of the whole program: settings are read, the built-in commands are
registered, and the read loop runs on the lines of the standard input. Prompts
go to the standard output and log records to the standard error.
-/

/-- Why the program ends before its input does. -/
inductive ProgramFault where
  | settings (fault : SettingsFault)
  | log (fault : Log.LogFault)
  | command (fault : Fault)
  deriving Repr, DecidableEq

/-- What a run of the program writes, and the fault that ended it, if one did. -/
structure Transcript where
  output : String
  errors : String
  fault : Option ProgramFault
  deriving Repr, DecidableEq

/-- A program that is ready to read its input. -/
structure Program where
  settings : Settings
  /-- The least level of the records that are shown. -/
  least : Log.Level
  session : Session

namespace Program

/-- A host that ends the program on request. -/
def hostReading
    (settings : Settings)
    (openFile : FileSystem.Path → Except FileSystem.OpenFault FileSystem.Readout) :
    Host where
  openFile :=
    openFile
  version :=
    settings.version
  exitCode :=
    settings.shell.exitCode
  exitEnds :=
    true

/-- A host that can encode every path and reads each file that it opens to its end. -/
def host
    (settings : Settings)
    (openFile : FileSystem.Path → Except SystemFault (List UInt8)) :
    Host :=
  hostReading settings fun path =>
    match openFile path with
    | .ok bytes =>
        .ok { bytes := bytes }
    | .error fault =>
        .error (.system fault)

/-- A session without commands that has the limits of the settings. -/
def emptySession (settings : Settings) : Session :=
  .empty settings.limits.nameLength settings.limits.lineLength

/-- A program whose session has no commands yet. -/
def prepare (environment : Settings.Environment) : Except ProgramFault Program := do
  let settings ← (Settings.readAll environment).mapError .settings
  let least ← (Log.levelOfLabel settings.logLevel).mapError .log
  return ⟨settings, least, emptySession settings⟩

/-- Register the built-in commands. -/
def registerBuiltins (program : Program) : Attempt Program Unit :=
  let registered := program.session.registerAll (Builtin.all.map Builtin.command)
  ⟨{ program with session := registered.state }, registered.outcome⟩

/-- The read loop of a program on an input. -/
def shell (program : Program) (input : List TypedLine) : Shell where
  session :=
    program.session
  prompt :=
    program.settings.shell.prompt
  input :=
    input

/-- What the log shows of a session. -/
def shownLog (least : Log.Level) (session : Session) : String :=
  Log.shown least (session.log.toList.map Log.Record.ofEvent)

/-- The lines of a standard input. -/
def typedLines (input : String) : List TypedLine :=
  (Text.lines input.toList).map fun line => ⟨String.ofList line, false⟩

/-- The fault with which a loop has ended, if it has ended with one. -/
def faultOfEnding : Shell.Ending → Option ProgramFault
  | .escaped fault =>
      some (.command fault)
  | _ =>
      none

/-- Run a program on an input for at most a given count of turns. -/
def transcribe
    (program : Program)
    (files : FileSystem.Tree)
    (input : String)
    (turns : Nat) :
    Transcript :=
  let registered := program.registerBuiltins
  let program := registered.state
  match registered.outcome with
  | .error fault =>
      ⟨"", shownLog program.least program.session, some (.command fault)⟩
  | .ok () =>
      let start := program.shell (typedLines input)
      let (shell, ending) := start.run (host program.settings files.openFile) turns
      ⟨String.join shell.prompts.toList, shownLog program.least shell.session,
        faultOfEnding ending⟩

/-- Run the program; without valid groups of settings it does not start. -/
def run
    (process : List (String × String))
    (environmentFile : Option (List UInt8))
    (files : FileSystem.Tree)
    (input : String)
    (turns : Nat) :
    Except SettingsFault Transcript := do
  let environment ← Settings.gather process environmentFile
  match prepare environment with
  | .error fault =>
      return ⟨"", "", some fault⟩
  | .ok program =>
      return program.transcribe files input turns

end Program

end CommandConsole
