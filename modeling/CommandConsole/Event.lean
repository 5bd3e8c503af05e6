import CommandConsole.Fault
import CommandConsole.Log.Level

namespace CommandConsole

/-!
# Logged events

Everything that a session logs, as what happened with the values it is about.
The level, the part of the program and the wording follow from the event.
-/

/-- The parts of the program that log events. -/
inductive Source where
  | registry
  | queue
  | context
  | dispatcher
  | command
  | shell
  deriving Repr, DecidableEq

/-- The name of a part in log records. -/
def Source.label : Source → String
  | .registry =>
      "Registry"
  | .queue =>
      "Queue"
  | .context =>
      "Context"
  | .dispatcher =>
      "Dispatcher"
  | .command =>
      "Command"
  | .shell =>
      "Shell"

/-- One logged event. -/
inductive Event where
  /-- A command was registered under a key. -/
  | registered (key : String)
  /-- A batch was queued; the second count is that of all pending lines. -/
  | batchQueued (count pending : Nat)
  /-- A stop request was seen and pending lines were discarded. -/
  | discarded (count : Nat)
  /-- A pending line is about to run. -/
  | running (line : String)
  /-- The detail of a command was shown. -/
  | detailShown (detail : String)
  /-- The summary of a command was listed. -/
  | summaryListed (summary : String)
  /-- The version was shown. -/
  | versionShown (version : String)
  /-- A variable was set. -/
  | variableSet (key : String)
  /-- The value of one variable was shown. -/
  | variableShown (text : String)
  /-- A variable was listed. -/
  | variableListed (text : String)
  /-- A line of a command file is about to be queued. -/
  | lineRead (line : String)
  /-- The program is about to end. -/
  | exiting
  /-- The read loop starts. -/
  | ready
  /-- The read loop met the end of its input. -/
  | inputClosed
  /-- A command failed and the read loop goes on. -/
  | failure (fault : Fault)
  deriving Repr, DecidableEq

namespace Event

/-- The level of a failure that the read loop logs: a stop is expected, all else is an error. -/
def failureLevel : Fault → Log.Level
  | .stopped =>
      .warning
  | _ =>
      .error

/-- The wording of a failure that the read loop logs; system faults show their kind. -/
def failureMessage : Fault → String
  | .system fault =>
      fault.label ++ ": " ++ fault.message
  | fault =>
      fault.message

/-- The level of an event. -/
def level : Event → Log.Level
  | .registered _
  | .batchQueued _ _
  | .variableSet _ =>
      .debug
  | .discarded _ =>
      .warning
  | .failure fault =>
      failureLevel fault
  | _ =>
      .info

/-- The part of the program that logs an event. -/
def source : Event → Source
  | .registered _ =>
      .registry
  | .batchQueued _ _ =>
      .queue
  | .discarded _ =>
      .context
  | .running _ =>
      .dispatcher
  | .ready
  | .inputClosed
  | .failure _ =>
      .shell
  | _ =>
      .command

/-- The wording of an event. -/
def message : Event → String
  | .registered key =>
      "Registered command: " ++ key
  | .batchQueued count pending =>
      "Queued batch of " ++ toString count ++ " commands (" ++ toString pending ++ " pending)"
  | .discarded count =>
      "Command stopped, discarded " ++ toString count ++ " queued commands"
  | .running line =>
      "Running command: " ++ line
  | .detailShown detail =>
      "\n\n" ++ detail ++ "\n"
  | .summaryListed summary =>
      summary
  | .versionShown version =>
      "CLI Version: " ++ version
  | .variableSet key =>
      "Set variable " ++ key
  | .variableShown text
  | .variableListed text =>
      text
  | .lineRead line =>
      "Queueing command: " ++ line
  | .exiting =>
      "Exiting"
  | .ready =>
      "MCS CLI ready, type HELP for a list of commands"
  | .inputClosed =>
      "Input closed, shutting down"
  | .failure fault =>
      failureMessage fault

end Event

end CommandConsole
