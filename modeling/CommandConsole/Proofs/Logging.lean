import CommandConsole.Proofs.Typing

namespace CommandConsole

/-!
# What runs and turns add to the log

A log only grows. While a line is run, events are added by commands, by the
queue where a batch is accepted, and by a stop; no event of the read loop and
none that says that a line is about to run comes in between. So the log tells
of just the lines that the loop has run, each once and in their order.
-/

/-- The event is one that can be logged while a line is run. -/
def Event.OfRun (event : Event) : Prop :=
  event.source = .command ∨ event.source = .queue ∨ event.source = .context

/-- The line that the event says is about to run. -/
def Event.runningLine? : Event → Option String
  | .running line =>
      some line
  | _ =>
      none

/-- No event of a run says that a line is about to run. -/
theorem Event.OfRun.runningLine?_eq
    {event : Event}
    (ofRun : event.OfRun) :
    event.runningLine? = none := by
  cases event with
  | running line =>
      rcases ofRun with source | source | source <;> exact nomatch source
  | _ =>
      rfl

namespace Session

/-- A later session has logged further events, and all of these meet a condition. -/
def Logs (before after : Session) (condition : Event → Prop) : Prop :=
  ∃ events : List Event,
    after.log = before.log ++ events.toArray ∧ ∀ event ∈ events, condition event

/-- A later session has logged further events, which say of the given lines that they run. -/
def LogsRunning (before after : Session) (lines : List String) : Prop :=
  ∃ events : List Event,
    after.log = before.log ++ events.toArray ∧ events.filterMap Event.runningLine? = lines

variable {session first second third : Session} {condition : Event → Prop}

theorem logs_of_same_log (same : second.log = first.log) : first.Logs second condition :=
  ⟨[], by simp [same], nofun⟩

theorem Logs.trans
    (earlier : first.Logs second condition)
    (later : second.Logs third condition) :
    first.Logs third condition := by
  obtain ⟨early, earlyLog, earlyMeet⟩ := earlier
  obtain ⟨late, lateLog, lateMeet⟩ := later
  refine ⟨early ++ late, ?_, List.forall_mem_append.mpr ⟨earlyMeet, lateMeet⟩⟩
  rw [lateLog, earlyLog]
  simp [Array.append_assoc]

theorem Logs.mono
    {wider : Event → Prop}
    (logs : first.Logs second condition)
    (widens : ∀ event, condition event → wider event) :
    first.Logs second wider := by
  obtain ⟨events, log, meet⟩ := logs
  exact ⟨events, log, fun event member => widens event (meet event member)⟩

theorem LogsRunning.trans
    {early late : List String}
    (earlier : first.LogsRunning second early)
    (later : second.LogsRunning third late) :
    first.LogsRunning third (early ++ late) := by
  obtain ⟨earlyEvents, earlyLog, rfl⟩ := earlier
  obtain ⟨lateEvents, lateLog, rfl⟩ := later
  refine ⟨earlyEvents ++ lateEvents, ?_, List.filterMap_append⟩
  rw [lateLog, earlyLog]
  simp [Array.append_assoc]

/-- What is logged while a line is run says of no line that it runs. -/
theorem Logs.runsNothing (logs : first.Logs second Event.OfRun) : first.LogsRunning second [] := by
  obtain ⟨events, log, ofRun⟩ := logs
  exact ⟨events, log,
    List.filterMap_eq_nil_iff.mpr fun event member => (ofRun event member).runningLine?_eq⟩

theorem logsRunning_record (session : Session) (event : Event) :
    session.LogsRunning (session.record event) event.runningLine?.toList := by
  refine ⟨[event], by simp [record], ?_⟩
  cases event <;> rfl

theorem logs_record
    (session : Session)
    {event : Event}
    (meets : condition event) :
    session.Logs (session.record event) condition :=
  ⟨[event], by simp [record], by simpa using meets⟩

theorem logs_poll (session : Session) : session.Logs session.poll.state Event.OfRun := by
  have sameLog : session.advanceAlarm.log = session.log := by
    unfold advanceAlarm
    split <;> rfl
  unfold poll
  dsimp only
  split
  · exact (logs_of_same_log sameLog).trans (logs_record _ (.inr (.inr rfl)))
  · exact logs_of_same_log sameLog

theorem logs_play
    (session : Session)
    {acts : List Act}
    (ofCommand : ∀ event ∈ Act.events acts, event.OfCommand) :
    session.Logs (session.play acts).state Event.OfRun := by
  induction acts generalizing session with
  | nil =>
      exact logs_of_same_log rfl
  | cons act acts inductionHypothesis =>
      cases act with
      | log event =>
          rw [Act.events_log_cons, List.forall_mem_cons] at ofCommand
          exact (logs_record session (.inl ofCommand.1)).trans
            (inductionHypothesis _ ofCommand.2)
      | poll =>
          unfold play
          dsimp only
          split
          · exact session.logs_poll.trans (inductionHypothesis _ ofCommand)
          · exact session.logs_poll

theorem logs_conclude (session : Session) (outcome : Except Fault Completion) :
    session.Logs (session.conclude outcome).state Event.OfRun := by
  cases outcome with
  | error fault =>
      exact logs_of_same_log rfl
  | ok completion =>
      simp only [conclude]
      cases applied : session.apply completion.effect with
      | error fault =>
          exact logs_of_same_log rfl
      | ok next =>
          cases effect : completion.effect with
          | queueAhead lines =>
              rw [effect] at applied
              obtain ⟨queue, _, rfl⟩ := exists_of_enqueueBatch applied
              exact ⟨[.batchQueued lines.length queue.size], by simp [record],
                by simp [Event.OfRun, Event.source]⟩
          | _ =>
              rw [effect] at applied
              obtain rfl := Except.ok.inj applied
              exact logs_of_same_log rfl

theorem logs_run (session : Session) (host : Host) (line : String) :
    session.Logs (session.run host line).state Event.OfRun := by
  have played := session.logs_play (session.scope.within_interpret host line).logged
  cases playing : session.play (session.scope.interpret host line).acts with
  | mk state outcome =>
      rw [playing] at played
      cases outcome with
      | ok done =>
          rw [run_of_played playing]
          exact played.trans (state.logs_conclude _)
      | error fault =>
          rw [run_of_stopped playing]
          exact played

/-- The session that runs its first pending line: it has polled and taken the line off the queue. -/
def taken (session : Session) (line : String) : Session :=
  { session.poll.state with queue := session.poll.state.queue.tail }.record (.running line)

/-- The first pending line is run, or a stop keeps it from that. -/
theorem pollAndRun_cases
    {line : String}
    {rest : List String}
    (waiting : session.queue.lines = line :: rest)
    (host : Host) :
    (session.poll.outcome = .ok () ∧ session.Kept session.poll.state ∧
        Shell.pollAndRun session host = (session.taken line).run host line) ∨
      (session.poll.outcome = .error .stopped ∧
        Shell.pollAndRun session host = ⟨session.poll.state, .error .stopped⟩) := by
  rcases session.poll_cases with ⟨goesOn, kept⟩ | ⟨stopped, _⟩
  · have popped : session.poll.state.queue.pop = .ok (line, session.poll.state.queue.tail) := by
      simp [Queue.pop, kept.queue, waiting]
    refine .inl ⟨goesOn, kept, ?_⟩
    simp only [Shell.pollAndRun, goesOn, runNext, popped]
    rfl
  · refine .inr ⟨stopped, ?_⟩
    simp only [Shell.pollAndRun, stopped]

end Session

namespace Shell

open Session

theorem logsRunning_settled (ran : Attempt Session Reply) :
    ran.state.LogsRunning (settled ran).state [] := by
  unfold settled
  split
  · exact (logs_of_same_log rfl).runsNothing
  · next fault _ =>
      split
      · exact logsRunning_record ran.state (.failure fault)
      · exact (logs_of_same_log rfl).runsNothing

theorem logsRunning_accept (session : Session) (line : TypedLine) :
    session.LogsRunning (accept session line) [] := by
  by_cases short : (line.text.length : Int) ≤ session.queue.limit
  · obtain ⟨queue, accepted, _⟩ := exists_accept_of_short short
    rw [accepted]
    exact (logs_of_same_log rfl).runsNothing
  · rw [accept_of_long (Int.not_le.mp short)]
    exact logsRunning_record session.dismissStop (.failure _)

/-- A turn says that it runs a line just when it runs one, and of that line. -/
theorem logsRunning_step (shell : Shell) (host : Host) :
    shell.session.LogsRunning (shell.step host).state.session
      ((shell.execution? host).map Execution.line).toList := by
  cases waiting : shell.session.queue.lines with
  | nil =>
      rw [execution?_of_idle waiting]
      cases next : shell.input with
      | nil =>
          rw [step_of_closed waiting next]
          exact (logs_of_same_log rfl).runsNothing
      | cons line input =>
          rw [step_of_read waiting next]
          exact logsRunning_accept shell.session line
  | cons line rest =>
      have settles := logsRunning_settled (pollAndRun shell.session host)
      have polls := shell.session.logs_poll.runsNothing
      rw [step_of_busy (by simp [waiting]), runPending_eq]
      rcases shell.session.pollAndRun_cases waiting host with
        ⟨goesOn, _, runs⟩ | ⟨stopped, stops⟩
      · have ran : shell.session.poll.state.LogsRunning (pollAndRun shell.session host).state
            [line] := by
          rw [runs]
          exact (logsRunning_record { shell.session.poll.state with
            queue := shell.session.poll.state.queue.tail } (.running line)).trans
              (logs_run _ host line).runsNothing
        simpa [execution?, goesOn, waiting] using (polls.trans ran).trans settles
      · rw [stops] at settles ⊢
        simpa [execution?, stopped] using polls.trans settles

/-- Turns say of just the lines that they run that these are run. -/
theorem logsRunning_turn (host : Host) (turns : Nat) (shell : Shell) :
    shell.session.LogsRunning (turn host turns shell).1.session
      ((executions host turns shell).map Execution.line) := by
  induction turns generalizing shell with
  | zero =>
      exact (logs_of_same_log rfl).runsNothing
  | succ turns inductionHypothesis =>
      have stepped := shell.logsRunning_step host
      have executed : ((shell.execution? host).map Execution.line).toList =
          (shell.execution? host).toList.map Execution.line := by
        cases shell.execution? host <;> rfl
      rw [executed] at stepped
      rw [turn, executions]
      cases outcome : (shell.step host).outcome with
      | error fault =>
          simpa using stepped
      | ok goesOn =>
          cases goesOn with
          | true =>
              simpa using stepped.trans (inductionHypothesis (shell.step host).state)
          | false =>
              simpa [Event.runningLine?, Shell.record] using
                stepped.trans (logsRunning_record _ .inputClosed)

end Shell

end CommandConsole
