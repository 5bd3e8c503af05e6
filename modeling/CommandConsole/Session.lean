import CommandConsole.Attempt
import CommandConsole.Command.Performance
import CommandConsole.Queue
import CommandConsole.StopFlag

namespace CommandConsole

/-!
# Sessions

The state that commands share: the registered commands, the variables, the
pending lines and the stop flag, together with what was logged. A line is run
by playing its script act by act; the effect is applied at the end. A poll that
finds the stop flag raised lowers it, discards all pending lines and ends the
run.
-/

/-- The state of a session. -/
structure Session where
  registry : Registry
  queue : Queue
  store : Variables := {}
  stop : StopFlag := {}
  /-- The count of polls after which the stop flag is raised, if that is wanted. -/
  alarm : Option Nat := none
  /-- The recorded exit codes in order. -/
  exits : List Int := []
  /-- The logged events in order. -/
  log : Array Event := #[]
  deriving Repr, DecidableEq

namespace Session

/-- A session without any command. -/
def empty (nameLimit lineLimit : Int) : Session where
  registry :=
    { limit := nameLimit }
  queue :=
    { limit := lineLimit }

/-- What commands can see of a session. -/
def scope (session : Session) : Scope where
  registry :=
    session.registry
  store :=
    session.store

/-- Log an event. -/
def record (session : Session) (event : Event) : Session :=
  { session with log := session.log.push event }

/-- Raise the stop flag. -/
def requestStop (session : Session) : Session :=
  { session with stop := .raised }

/-- Lower the stop flag. -/
def dismissStop (session : Session) : Session :=
  { session with stop := .lowered }

/-- Have the stop flag raised just before the poll that follows a count of further polls. -/
def setAlarm (session : Session) (polls : Nat) : Session :=
  { session with alarm := some polls }

/-- Count one poll towards the alarm. -/
def advanceAlarm (session : Session) : Session :=
  match session.alarm with
  | none =>
      session
  | some 0 =>
      { session with alarm := none, stop := .raised }
  | some (polls + 1) =>
      { session with alarm := some polls }

/-- Stop: discard all pending lines and log how many there were. -/
def discardPending (session : Session) : Session :=
  { session with queue := session.queue.clear }.record (.discarded session.queue.size)

/-- Poll for a stop request; the fault is that of a stop. -/
def poll (session : Session) : Attempt Session Unit :=
  let session := session.advanceAlarm
  let (requested, flag) := session.stop.consume
  if requested then
    ⟨{ session with stop := flag }.discardPending, .error .stopped⟩
  else
    ⟨session, .ok ()⟩

/-- Play acts in order until a poll stops them. -/
def play (session : Session) : List Act → Attempt Session Unit
  | [] =>
      ⟨session, .ok ()⟩
  | .log event :: acts =>
      play (session.record event) acts
  | .poll :: acts =>
      let polled := session.poll
      match polled.outcome with
      | .ok () =>
          play polled.state acts
      | .error fault =>
          ⟨polled.state, .error fault⟩

/-- Acts are played one list after the other; a stop in the first list leaves out the second. -/
theorem play_append (session : Session) (first second : List Act) :
    session.play (first ++ second) =
      match (session.play first).outcome with
      | .ok () =>
          (session.play first).state.play second
      | .error fault =>
          ⟨(session.play first).state, .error fault⟩ := by
  induction first generalizing session with
  | nil =>
      rfl
  | cons act rest inductionHypothesis =>
      cases act with
      | log event =>
          simpa [play] using inductionHypothesis (session.record event)
      | poll =>
          simp only [List.cons_append, play]
          split
          · exact inductionHypothesis _
          · rfl

/-- Play a script to its outcome. -/
def playScript (session : Session) (script : Script α) : Attempt Session α :=
  let played := session.play script.acts
  match played.outcome with
  | .ok () =>
      ⟨played.state, script.outcome⟩
  | .error fault =>
      ⟨played.state, .error fault⟩

/-- Queue one line behind all pending ones. -/
def enqueue (session : Session) (line : String) : Except Fault Session := do
  let queue ← session.queue.enqueue line
  return { session with queue := queue }

/-- Queue a batch ahead of all pending lines. -/
def enqueueBatch (session : Session) (lines : List String) : Except Fault Session := do
  let queue ← session.queue.enqueueBatch lines
  return { session with queue := queue }.record (.batchQueued lines.length queue.size)

/-- Discard all pending lines without a word. -/
def clear (session : Session) : Session :=
  { session with queue := session.queue.clear }

/-- Set a variable without a word. -/
def assign (session : Session) (key value : String) : Session :=
  { session with store := session.store.set key value }

/-- Register a command. -/
def register (session : Session) (command : Command) : Except Fault Session := do
  let registry ← session.registry.register command
  return { session with registry := registry }.record (.registered command.key)

/-- Register commands in order, up to the first one that is refused. -/
def registerAll (session : Session) : List Command → Attempt Session Unit
  | [] =>
      ⟨session, .ok ()⟩
  | command :: commands =>
      match session.register command with
      | .ok session =>
          registerAll session commands
      | .error fault =>
          ⟨session, .error fault⟩

/-- Apply the effect of a command that has come to its end. -/
def apply (session : Session) : Effect → Except Fault Session
  | .none =>
      .ok session
  | .assign key value =>
      .ok (session.assign key value)
  | .queueAhead lines =>
      session.enqueueBatch lines
  | .requestStop =>
      .ok session.requestStop
  | .recordExit code =>
      .ok { session with exits := session.exits ++ [code] }

/-- Find the invocation in a line without performing it. -/
def parse (session : Session) (line : String) : Attempt Session (Option Invocation) :=
  session.playScript (Invocation.ofLine? session.registry session.store line)

/-- Run a line. -/
def run (session : Session) (host : Host) (line : String) : Attempt Session Reply :=
  let played := session.playScript (session.scope.interpret host line)
  match played.outcome with
  | .error fault =>
      ⟨played.state, .error fault⟩
  | .ok completion =>
      match played.state.apply completion.effect with
      | .error fault =>
          ⟨played.state, .error fault⟩
      | .ok session =>
          ⟨session, .ok completion.reply⟩

/-- Take the first pending line off the queue and run it. -/
def runNext (session : Session) (host : Host) : Attempt Session Reply :=
  match session.queue.pop with
  | .error fault =>
      ⟨session, .error fault⟩
  | .ok (line, queue) =>
      ({ session with queue := queue }.record (.running line)).run host line

end Session

end CommandConsole
