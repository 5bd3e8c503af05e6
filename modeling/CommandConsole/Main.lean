import CommandConsole.Program

namespace CommandConsole

/-!
# The command line

The outer layer of the program: it reads the environment, the standard input
and command files, writes prompts and log records, and leaves every decision to
the read loop. A command file is read just before the line that opens it runs.
-/

namespace Console

/-- The variables of the process. -/
def readProcessVariables : IO (List (String × String)) := do
  let bytes ← try IO.FS.readBinFile "/proc/self/environ" catch _ => pure ByteArray.empty
  let text := (String.fromUTF8? bytes).getD ""
  let definitions := (Text.splitAtEach '\x00' text.toList).filter fun definition =>
    definition.contains '='
  return definitions.map fun definition =>
    (String.ofList (definition.takeWhile (· != '=')),
      String.ofList ((definition.dropWhile (· != '=')).drop 1))

/-- The bytes of the environment file, if there is one. -/
def readEnvironmentFile : IO (Option (List UInt8)) := do
  try
    return some (← IO.FS.readBinFile ".env").toList
  catch _ =>
    return none

/-- The fault of a failed attempt to read the file with a path. -/
def faultOfError (path : String) : IO.Error → SystemFault
  | .noFileOrDirectory .. =>
      .missing path
  | .inappropriateType .. =>
      .isDirectory path
  | error =>
      .other error.toString

/-- Read what is left of an open file behind the bytes that were read of it. -/
partial def readOn
    (path : String)
    (file : IO.FS.Handle)
    (bytes : ByteArray) :
    IO FileSystem.Readout := do
  match ← (file.read FileSystem.Content.chunkSize.toUSize).toBaseIO with
  | .error error =>
      return { bytes := bytes.toList, fault := some (faultOfError path error) }
  | .ok chunk =>
      if chunk.isEmpty then
        return { bytes := bytes.toList }
      else
        readOn path file (bytes ++ chunk)

/-- Open the file to which a path leads and read it. -/
def readFile (path : FileSystem.Path) :
    IO (Except FileSystem.OpenFault FileSystem.Readout) := do
  match ← (IO.FS.Handle.mk path.text .read).toBaseIO with
  | .error error =>
      return .error (.system (faultOfError path.text error))
  | .ok file =>
      return .ok (← readOn path.text file ByteArray.empty)

/-- The path of the file that the next pending line opens, if it opens one. -/
def wantedFile? (session : Session) : Option FileSystem.Path := do
  let line ← session.queue.lines.head?
  let invocation ← (session.parse line).outcome.toOption.join
  if invocation.command.action = .builtin .file then
    return FileSystem.Path.ofText (← invocation.arguments.head?)
  else
    none

/-- Read the file that the next pending line opens. -/
def readWantedFile (session : Session) :
    IO (Except FileSystem.OpenFault FileSystem.Readout) :=
  match wantedFile? session with
  | some path =>
      readFile path
  | none =>
      return .ok { bytes := [] }

/-- Write what the log shows of a session, and forget it. -/
def flushLog (least : Log.Level) (session : Session) : IO Session := do
  (← IO.getStderr).putStr (Program.shownLog least session)
  return { session with log := #[] }

/-- Show the prompt of a loop whose queue is empty and hand it the next line of the input. -/
def prompt (shell : Shell) : IO Shell := do
  if shell.session.queue.isEmpty then
    let output ← IO.getStdout
    output.putStr shell.prompt
    output.flush
    let line ← (← IO.getStdin).getLine
    return { shell with input := (Program.typedLines line), prompts := #[] }
  else
    return shell

/-- The exit status of a code. -/
def exitStatus (code : Int) : UInt32 :=
  (code % 256).toNat.toUInt32

/-- Say why the program ends and fail. -/
def abort (message : String) : IO UInt32 := do
  (← IO.getStderr).putStrLn message
  return 1

/-- Turn the read loop until it ends. -/
partial def turn (program : Program) (shell : Shell) : IO UInt32 := do
  let shell ← prompt shell
  let opened ← readWantedFile shell.session
  let stepped := shell.step (Program.hostReading program.settings fun _ => opened)
  let session ← flushLog program.least stepped.state.session
  let shell := { stepped.state with session := session }
  match stepped.outcome with
  | .ok true =>
      turn program shell
  | .ok false =>
      let _ ← flushLog program.least (shell.record .inputClosed).session
      return 0
  | .error (.exit code) =>
      return exitStatus code
  | .error fault =>
      abort fault.message

/-- Run a program that is prepared. -/
def start (prepared : Program) : IO UInt32 := do
  let registered := prepared.registerBuiltins
  let program := registered.state
  let session ← flushLog program.least program.session
  match registered.outcome with
  | .error fault =>
      abort fault.message
  | .ok () =>
      let shell := ({ program with session := session }.shell []).record .ready
      let session ← flushLog program.least shell.session
      turn program { shell with session := session }

/-- Why a program that is not prepared ends. -/
def messageOfFault : ProgramFault → String
  | .settings fault =>
      fault.message
  | .log fault =>
      fault.message
  | .command fault =>
      fault.message

end Console

end CommandConsole

open CommandConsole in
/-- Run the program on the standard input. -/
def main : IO UInt32 := do
  let process ← Console.readProcessVariables
  match Settings.gather process (← Console.readEnvironmentFile) with
  | .error fault =>
      Console.abort fault.message
  | .ok environment =>
      match Program.prepare environment with
      | .error fault =>
          Console.abort (Console.messageOfFault fault)
      | .ok program =>
          Console.start program
