import CommandConsole.Session

namespace CommandConsole

/-!
# The read loop

While lines are pending they are run one at a time, with a poll before each;
when none is pending, a line is read and queued. A stop request that is raised
while a line is being read does not stop the line. Faults that the loop handles
are logged; any other leaves it.
-/

/-- One line of input. -/
structure TypedLine where
  text : String
  /-- Whether a stop was requested while the line was typed. -/
  interrupts : Bool := false
  deriving Repr, DecidableEq

/-- A session that reads its lines from an input. -/
structure Shell where
  session : Session
  prompt : String
  /-- The lines not read yet. -/
  input : List TypedLine
  /-- The prompts shown so far. -/
  prompts : Array String := #[]
  deriving Repr, DecidableEq

namespace Shell

/-- Queue a line that was typed; one that is too long is logged and dropped. -/
def accept (session : Session) (line : TypedLine) : Session :=
  let session := if line.interrupts then session.requestStop else session
  let session := session.dismissStop
  match session.enqueue line.text with
  | .ok session =>
      session
  | .error fault =>
      session.record (.failure fault)

/-- Show the prompt and read a line; the outcome says whether there was one. -/
def readLine (shell : Shell) : Attempt Shell Bool :=
  let shell := { shell with prompts := shell.prompts.push shell.prompt }
  match shell.input with
  | [] =>
      ⟨shell, .ok false⟩
  | line :: input =>
      ⟨{ shell with session := accept shell.session line, input := input }, .ok true⟩

/-- Poll, then run the next pending line. -/
def pollAndRun (session : Session) (host : Host) : Attempt Session Reply :=
  let polled := session.poll
  match polled.outcome with
  | .ok () =>
      polled.state.runNext host
  | .error fault =>
      ⟨polled.state, .error fault⟩

/-- Run the next pending line and log a fault that the loop handles. -/
def runPending (shell : Shell) (host : Host) : Attempt Shell Bool :=
  let ran := pollAndRun shell.session host
  match ran.outcome with
  | .ok _ =>
      ⟨{ shell with session := ran.state }, .ok true⟩
  | .error fault =>
      if fault.isHandled then
        ⟨{ shell with session := ran.state.record (.failure fault) }, .ok true⟩
      else
        ⟨{ shell with session := ran.state }, .error fault⟩

/-- One turn of the loop; the outcome says whether to go on. -/
def step (shell : Shell) (host : Host) : Attempt Shell Bool :=
  if shell.session.queue.isEmpty then
    shell.readLine
  else
    shell.runPending host

/-- Log an event of the loop itself. -/
def record (shell : Shell) (event : Event) : Shell :=
  { shell with session := shell.session.record event }

/-- How a loop that was given a count of turns has ended. -/
inductive Ending where
  /-- The input has ended. -/
  | inputClosed
  /-- A fault has left the loop. -/
  | escaped (fault : Fault)
  /-- The turns were used up. -/
  | outOfTurns
  deriving Repr, DecidableEq

/-- Turn the loop at most a given count of times. -/
def turn (host : Host) : Nat → Shell → Shell × Ending
  | 0, shell =>
      (shell, .outOfTurns)
  | turns + 1, shell =>
      let stepped := shell.step host
      match stepped.outcome with
      | .ok true =>
          turn host turns stepped.state
      | .ok false =>
          (stepped.state.record .inputClosed, .inputClosed)
      | .error fault =>
          (stepped.state, .escaped fault)

/-- Run the loop for at most a given count of turns. -/
def run (shell : Shell) (host : Host) (turns : Nat) : Shell × Ending :=
  turn host turns (shell.record .ready)

end Shell

end CommandConsole
