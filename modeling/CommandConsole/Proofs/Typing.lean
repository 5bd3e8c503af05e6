import CommandConsole.Proofs.Backlog
import CommandConsole.Proofs.CommandFile
import CommandConsole.Proofs.Quiet

namespace CommandConsole

/-!
# Typing the lines of a command file

A line is read only when none is pending. So lines that are still to be typed
are as good as lines that wait behind all pending ones, and reading one of them
is no more than a turn that nothing is seen of. A command file whose lines are
queued therefore takes the same course as typing these lines.
-/

namespace Shell

open Session

variable {session : Session} {line : TypedLine}

/-- With no stop requested and no alarm set, a poll leaves a session as it is. -/
theorem poll_of_lowered
    (lowered : session.stop = .lowered)
    (noAlarm : session.alarm = none) :
    session.poll = ⟨session, .ok ()⟩ := by
  rw [poll_of_undisturbed (undisturbed_of_no_alarm lowered noAlarm 1)]
  cases session
  simp_all [afterActs]

theorem pollAndRun_of_lowered
    (lowered : session.stop = .lowered)
    (noAlarm : session.alarm = none)
    (host : Host)
    {line : String}
    {rest : List String}
    (waiting : session.queue.lines = line :: rest) :
    pollAndRun session host =
      ({ session with queue := session.queue.tail }.record (.running line)).run host line := by
  have popped : session.queue.pop = .ok (line, session.queue.tail) := by
    simp [Queue.pop, waiting]
  simp only [pollAndRun, poll_of_lowered lowered noAlarm, runNext, popped]

/-- Reading a line lowers the stop flag, also if it was raised while the line was typed. -/
theorem accept_eq_enqueue (session : Session) (line : TypedLine) :
    accept session line =
      match session.dismissStop.enqueue line.text with
      | .ok next =>
          next
      | .error fault =>
          session.dismissStop.record (.failure fault) := by
  obtain ⟨text, interrupts⟩ := line
  cases interrupts <;> rfl

/-- A typed line that is short enough is queued behind all pending lines. -/
theorem exists_accept_of_short
    (short : (line.text.length : Int) ≤ session.queue.limit) :
    ∃ queue : Queue,
      accept session line = { session with queue := queue, stop := .lowered } ∧
        queue.limit = session.queue.limit ∧
        queue.lines = session.queue.lines ++ [line.text] := by
  obtain ⟨queue, accepted, sameLimit, behind⟩ := Queue.exists_enqueue short
  refine ⟨queue, ?_, sameLimit, behind⟩
  have queued : session.dismissStop.enqueue line.text =
      .ok { session.dismissStop with queue := queue } := by
    simp only [enqueue, dismissStop, accepted]
    rfl
  rw [accept_eq_enqueue, queued]
  rfl

/-- A typed line that is too long is dropped with a message. -/
theorem accept_of_long
    (tooLong : session.queue.limit < line.text.length) :
    accept session line =
      session.dismissStop.record
        (.failure (.lineTooLong line.text.length session.queue.limit)) := by
  have refused : session.dismissStop.enqueue line.text =
      .error (.lineTooLong line.text.length session.queue.limit) := by
    have tooLongStill : session.dismissStop.queue.limit < line.text.length :=
      tooLong
    simp only [enqueue, Queue.enqueue_of_long tooLongStill]
    rfl
  rw [accept_eq_enqueue, refused]

end Shell

namespace Session.Quiet

variable {session : Session}

/-- A typed line that is short enough is queued, and nothing else changes. -/
theorem accept_eq
    (quiet : session.Quiet)
    {line : TypedLine}
    (short : (line.text.length : Int) ≤ session.queue.limit) :
    ∃ queue : Queue,
      Shell.accept session line = { session with queue := queue } ∧
        queue.limit = session.queue.limit ∧
        queue.lines = session.queue.lines ++ [line.text] := by
  obtain ⟨queue, accepted, sameLimit, behind⟩ := Shell.exists_accept_of_short short
  exact ⟨queue, by rw [accepted, ← quiet.lowered], sameLimit, behind⟩

end Session.Quiet

namespace Shell

open Session

/-- What is seen of some turns of the loop. -/
structure Course where
  /-- The lines that were run, with what each of them came to. -/
  executions : List Execution
  ending : Ending
  store : Variables
  exits : List Int
  deriving Repr, DecidableEq

/-- The course behind lines that were run before it. -/
def Course.after (earlier : List Execution) (course : Course) : Course :=
  { course with executions := earlier ++ course.executions }

/-- The lines that are run in at most a given count of turns. -/
def executions (host : Host) : Nat → Shell → List Execution
  | 0, _ =>
      []
  | turns + 1, shell =>
      let stepped := shell.step host
      (shell.execution? host).toList ++
        match stepped.outcome with
        | .ok true =>
            executions host turns stepped.state
        | _ =>
            []

/-- The course of at most a given count of turns. -/
def turnsCourse (host : Host) (turns : Nat) (shell : Shell) : Course where
  executions :=
    executions host turns shell
  ending :=
    (turn host turns shell).2
  store :=
    (turn host turns shell).1.session.store
  exits :=
    (turn host turns shell).1.session.exits

/-- The course of running the loop for at most a given count of turns. -/
def course (shell : Shell) (host : Host) (turns : Nat) : Course where
  executions :=
    executions host turns (shell.record .ready)
  ending :=
    (shell.run host turns).2
  store :=
    (shell.run host turns).1.session.store
  exits :=
    (shell.run host turns).1.session.exits

section Turns

variable {shell : Shell} {host : Host}

theorem turnsCourse_of_goes_on
    (goesOn : (shell.step host).outcome = .ok true)
    (turns : Nat) :
    turnsCourse host (turns + 1) shell =
      (turnsCourse host turns (shell.step host).state).after (shell.execution? host).toList := by
  simp [turnsCourse, executions, turn, goesOn, Course.after]

theorem turnsCourse_of_escaped
    {fault : Fault}
    (escaped : (shell.step host).outcome = .error fault)
    (turns : Nat) :
    turnsCourse host (turns + 1) shell =
      ⟨(shell.execution? host).toList, .escaped fault,
        (shell.step host).state.session.store, (shell.step host).state.session.exits⟩ := by
  simp [turnsCourse, executions, turn, escaped]

theorem execution?_of_idle (idle : shell.session.queue.lines = []) :
    shell.execution? host = none := by
  unfold execution?
  split
  · simp [idle]
  · rfl

theorem step_of_idle (idle : shell.session.queue.lines = []) :
    shell.step host = shell.readLine := by
  simp [step, Queue.isEmpty, idle]

theorem step_of_read
    {line : TypedLine}
    {input : List TypedLine}
    (idle : shell.session.queue.lines = [])
    (next : shell.input = line :: input) :
    shell.step host =
      ⟨{ shell with
          session := accept shell.session line
          input := input
          prompts := shell.prompts.push shell.prompt }, .ok true⟩ := by
  simp only [step_of_idle idle, readLine, next]

theorem step_of_closed
    (idle : shell.session.queue.lines = [])
    (readToEnd : shell.input = []) :
    shell.step host =
      ⟨{ shell with prompts := shell.prompts.push shell.prompt }, .ok false⟩ := by
  simp only [step_of_idle idle, readLine, readToEnd]

theorem turnsCourse_of_closed
    (idle : shell.session.queue.lines = [])
    (readToEnd : shell.input = [])
    (turns : Nat) :
    turnsCourse host (turns + 1) shell =
      ⟨[], .inputClosed, shell.session.store, shell.session.exits⟩ := by
  simp [turnsCourse, executions, turn, step_of_closed idle readToEnd,
    execution?_of_idle idle, Shell.record, Session.record]

/-- A loop that runs a pending line does not end with its input. -/
theorem outcome_runPending_ne_closed (shell : Shell) (host : Host) :
    (shell.runPending host).outcome ≠ .ok false := by
  rw [runPending_eq]
  dsimp only [settled]
  split
  · simp
  · split <;> simp

/-- When the loop ends with its input, no line is pending. -/
theorem lines_of_inputClosed
    {turns : Nat}
    (closed : (turn host turns shell).2 = .inputClosed) :
    (turn host turns shell).1.session.queue.lines = [] := by
  induction turns generalizing shell with
  | zero =>
      exact nomatch closed
  | succ turns inductionHypothesis =>
      rw [turn] at closed ⊢
      cases outcome : (shell.step host).outcome with
      | error fault =>
          rw [outcome] at closed
          exact nomatch closed
      | ok goesOn =>
          rw [outcome] at closed
          cases goesOn with
          | true =>
              exact inductionHypothesis closed
          | false =>
              by_cases idle : shell.session.queue.lines = []
              · rw [step_of_idle idle] at outcome ⊢
                unfold readLine at outcome ⊢
                dsimp only at outcome ⊢
                split at outcome
                · exact idle
                · exact nomatch outcome
              · rw [step_of_busy idle] at outcome
                exact absurd outcome (shell.outcome_runPending_ne_closed host)

/-- More turns change nothing for a loop that has ended. -/
theorem turn_add_of_ended
    {turns : Nat}
    (ended : (turn host turns shell).2 ≠ .outOfTurns)
    (more : Nat) :
    turn host (turns + more) shell = turn host turns shell := by
  induction turns generalizing shell with
  | zero =>
      exact absurd rfl ended
  | succ turns inductionHypothesis =>
      rw [Nat.succ_add, turn, turn]
      rw [turn] at ended
      cases outcome : (shell.step host).outcome with
      | error fault =>
          rfl
      | ok goesOn =>
          rw [outcome] at ended
          cases goesOn with
          | true =>
              exact inductionHypothesis ended
          | false =>
              rfl

end Turns

/-- The lines that are still to be typed in one loop wait behind all pending ones in the other. -/
structure Scripts (typed scripted : Shell) : Prop where
  backed : typed.session.Backed (typed.input.map TypedLine.text) scripted.session
  readToEnd : scripted.input = []
  quiet : typed.session.Quiet

section Simulation

variable {typed scripted : Shell} {host : Host}

/-- A turn that runs a pending line is the same in both loops. -/
theorem Scripts.turned
    (scripts : Scripts typed scripted)
    (busy : typed.session.queue.lines ≠ [])
    (host : Host) :
    scripted.execution? host = typed.execution? host ∧
      (scripted.step host).outcome = (typed.step host).outcome ∧
      Scripts (typed.step host).state (scripted.step host).state := by
  have turned := turnsAlike_of_busy scripts.backed busy host
  have scriptedBusy : scripted.session.queue.lines ≠ [] := by
    rw [scripts.backed.pending]
    exact List.append_ne_nil_of_left_ne_nil busy _
  obtain ⟨quietAfter, notStopped⟩ := scripts.quiet.pollAndRun host
  have pending := turned.pending.resolve_right fun stopped => notStopped stopped.1
  refine ⟨turned.executed, turned.outcome, ?_, ?_, ?_⟩
  · have sameInput : (typed.step host).state.input = typed.input := by
      rw [step_of_busy busy, runPending_eq]
    rw [sameInput]
    exact ⟨turned.alike, pending⟩
  · rw [step_of_busy scriptedBusy, runPending_eq]
    exact scripts.readToEnd
  · obtain ⟨log, settledState⟩ := exists_log_settled (pollAndRun typed.session host)
    rw [step_of_busy busy, runPending_eq, settledState]
    exact ⟨quietAfter.lowered, quietAfter.noAlarm, quietAfter.noStops⟩

/-- A turn that reads a line leaves the other loop where it is. -/
theorem Scripts.read
    (scripts : Scripts typed scripted)
    (idle : typed.session.queue.lines = [])
    {line : TypedLine}
    {input : List TypedLine}
    (next : typed.input = line :: input)
    (host : Host) :
    (typed.step host).outcome = .ok true ∧
      (typed.step host).state.session.queue.lines ≠ [] ∧
      Scripts (typed.step host).state scripted := by
  have ⟨⟨limit, registry, store, stop, alarm, exits⟩, pending⟩ := scripts.backed
  rw [idle, next, List.map_cons, List.nil_append] at pending
  have short : (line.text.length : Int) ≤ typed.session.queue.limit := by
    rw [← limit]
    exact scripted.session.queue.withinLimit line.text (by simp [pending])
  obtain ⟨queue, accepted, sameLimit, behind⟩ := scripts.quiet.accept_eq short
  rw [idle, List.nil_append] at behind
  rw [step_of_read idle next, accepted]
  refine ⟨rfl, by simp [behind], ?_, scripts.readToEnd, ?_⟩
  · exact ⟨⟨by rw [limit, sameLimit], registry, store, stop, alarm, exits⟩,
      by simp [pending, behind]⟩
  · exact ⟨scripts.quiet.lowered, scripts.quiet.noAlarm, scripts.quiet.noStops⟩

theorem Scripts.turnsCourse_of_closed
    (scripts : Scripts typed scripted)
    (idle : typed.session.queue.lines = [])
    (typedOut : typed.input = [])
    (turns more : Nat) :
    turnsCourse host (turns + 1) scripted = turnsCourse host (more + 1) typed := by
  have scriptedIdle : scripted.session.queue.lines = [] := by
    rw [scripts.backed.pending, idle, typedOut]
    rfl
  rw [Shell.turnsCourse_of_closed scriptedIdle scripts.readToEnd,
    Shell.turnsCourse_of_closed idle typedOut, scripts.backed.store, scripts.backed.exits]

/-- Both loops begin with the same run of a pending line, and go on as the loops behind it do. -/
theorem Scripts.turnsCourse_of_busy
    (scripts : Scripts typed scripted)
    (busy : typed.session.queue.lines ≠ [])
    {turns more : Nat}
    (later : (typed.step host).outcome = .ok true →
      turnsCourse host turns (scripted.step host).state =
        turnsCourse host more (typed.step host).state) :
    turnsCourse host (turns + 1) scripted = turnsCourse host (more + 1) typed := by
  obtain ⟨executed, sameOutcome, scriptsNext⟩ := scripts.turned busy host
  cases outcome : (typed.step host).outcome with
  | error fault =>
      rw [outcome] at sameOutcome
      rw [turnsCourse_of_escaped outcome, turnsCourse_of_escaped sameOutcome, executed,
        scriptsNext.backed.store, scriptsNext.backed.exits]
  | ok goesOn =>
      rw [outcome] at sameOutcome
      cases goesOn with
      | true =>
          rw [turnsCourse_of_goes_on outcome, turnsCourse_of_goes_on sameOutcome, executed,
            later outcome]
      | false =>
          rw [step_of_busy busy] at outcome
          exact absurd outcome (typed.outcome_runPending_ne_closed host)

theorem turnsCourse_of_read
    (idle : typed.session.queue.lines = [])
    (reads : (typed.step host).outcome = .ok true)
    (turns : Nat) :
    turnsCourse host (turns + 1) typed = turnsCourse host turns (typed.step host).state := by
  rw [turnsCourse_of_goes_on reads, execution?_of_idle idle]
  rfl

/-- Every course of the loop with the lines pending is one of the loop with the lines to type. -/
theorem Scripts.exists_typed_turns
    (scripts : Scripts typed scripted)
    (host : Host)
    (turns : Nat) :
    ∃ typedTurns, turnsCourse host turns scripted = turnsCourse host typedTurns typed := by
  induction turns generalizing typed scripted with
  | zero =>
      refine ⟨0, ?_⟩
      simp [turnsCourse, executions, turn, scripts.backed.store, scripts.backed.exits]
  | succ turns inductionHypothesis =>
      have whileBusy {typed : Shell}
          (scripts : Scripts typed scripted)
          (busy : typed.session.queue.lines ≠ []) :
          ∃ typedTurns,
            turnsCourse host (turns + 1) scripted = turnsCourse host typedTurns typed := by
        obtain ⟨more, later⟩ := inductionHypothesis (scripts.turned busy host).2.2
        exact ⟨more + 1, scripts.turnsCourse_of_busy busy fun _ => later⟩
      by_cases idle : typed.session.queue.lines = []
      · cases next : typed.input with
        | nil =>
            exact ⟨1, scripts.turnsCourse_of_closed idle next turns 0⟩
        | cons line input =>
            obtain ⟨reads, busy, scriptsNext⟩ := scripts.read idle next host
            obtain ⟨typedTurns, same⟩ := whileBusy scriptsNext busy
            exact ⟨typedTurns + 1, by rw [turnsCourse_of_read idle reads, same]⟩
      · exact whileBusy scripts idle

/-- Every course of the loop with the lines to type is one of the loop with the lines pending. -/
theorem Scripts.exists_scripted_turns
    (scripts : Scripts typed scripted)
    (host : Host)
    (turns : Nat) :
    ∃ scriptedTurns,
      turnsCourse host scriptedTurns scripted = turnsCourse host turns typed := by
  induction turns generalizing typed scripted with
  | zero =>
      refine ⟨0, ?_⟩
      simp [turnsCourse, executions, turn, scripts.backed.store, scripts.backed.exits]
  | succ turns inductionHypothesis =>
      by_cases idle : typed.session.queue.lines = []
      · cases next : typed.input with
        | nil =>
            exact ⟨1, scripts.turnsCourse_of_closed idle next 0 turns⟩
        | cons line input =>
            obtain ⟨reads, _, scriptsNext⟩ := scripts.read idle next host
            obtain ⟨scriptedTurns, same⟩ := inductionHypothesis scriptsNext
            exact ⟨scriptedTurns, by rw [turnsCourse_of_read idle reads, same]⟩
      · obtain ⟨more, later⟩ := inductionHypothesis (scripts.turned idle host).2.2
        exact ⟨more + 1, scripts.turnsCourse_of_busy idle fun _ => later⟩

end Simulation

section CommandFile

open FileSystem (Path Content)

variable {shell : Shell} {host : Host} {first : String} {invocation : Invocation}
variable {lines : List String}

/-- A file with the lines, each ended by a line feed, is read as the lines. -/
theorem queuesFile_of_lines
    {session : Session}
    (quiet : session.Quiet)
    (plain : ∀ line ∈ lines, '\n' ∉ line.toList ∧ line.toList.getLast? ≠ some '\r')
    (parsed : (session.parse first).outcome = .ok (some invocation))
    (isFile : invocation.command.action = .builtin .file)
    (opens : host.Opens (.ofText (invocation.arguments.getD 0 ""))
      { bytes := Text.Utf8.encode (lines.flatMap fun line => line.toList ++ ['\n']) }) :
    session.QueuesFile (Path.ofText (invocation.arguments.getD 0 "")).text lines
      (session.run host first) := by
  have cut : Text.Cut (lines.flatMap fun line => line.toList ++ ['\n'])
      (lines.map String.toList) [] := by
    refine ⟨by simp [List.flatMap_map], ?_, by simp⟩
    rintro _ member
    obtain ⟨line, listed, rfl⟩ := List.mem_map.mp member
    exact (plain line listed).1
  have trimmed :
      (Text.withRest (lines.map String.toList) []).map Content.trimLine = lines := by
    have trimmedEach : ∀ line ∈ lines, (Content.trimLine ∘ String.toList) line = id line := by
      intro line listed
      exact Content.trimLine_eq_iff.mpr ⟨0, by simp, (plain line listed).2⟩
    rw [Text.withRest, if_pos rfl, List.map_map, List.map_congr_left trimmedEach, List.map_id]
  have queues := queuesFile_of_encode (quiet.undisturbed _) parsed isFile opens cut
  rwa [trimmed] at queues

/-- A pending line that queues a command file leaves the lines of the file in its place. -/
theorem step_of_file
    (quiet : shell.session.Quiet)
    (waiting : shell.session.queue.lines = [first])
    (plain : ∀ line ∈ lines, '\n' ∉ line.toList ∧ line.toList.getLast? ≠ some '\r')
    (within : ∀ line ∈ lines, (line.length : Int) ≤ shell.session.queue.limit)
    (parsed : (Invocation.ofLine? shell.session.registry shell.session.store first).outcome =
      .ok (some invocation))
    (isFile : invocation.command.action = .builtin .file)
    (opens : host.Opens (.ofText (invocation.arguments.getD 0 ""))
      { bytes := Text.Utf8.encode (lines.flatMap fun line => line.toList ++ ['\n']) }) :
    ∃ after : Session,
      shell.step host = ⟨{ shell with session := after }, .ok true⟩ ∧
        shell.execution? host =
          some ⟨first, .ok (.queued (Path.ofText (invocation.arguments.getD 0 "")).text
            lines.length)⟩ ∧
        shell.session.Alike after ∧ after.queue.lines = lines := by
  let taken : Session :=
    { shell.session with queue := shell.session.queue.tail }.record (.running first)
  have quietTaken : taken.Quiet :=
    ⟨quiet.lowered, quiet.noAlarm, quiet.noStops⟩
  have ranAs : pollAndRun shell.session host = taken.run host first :=
    pollAndRun_of_lowered quiet.lowered quiet.noAlarm host waiting
  have parsedTaken : (taken.parse first).outcome = .ok (some invocation) := by
    rw [outcome_parse_of_undisturbed (quietTaken.undisturbed _)]
    exact parsed
  obtain ⟨outcome, ranLimit, ranLines, kept, _⟩ :=
    (queuesFile_of_lines quietTaken plain parsedTaken isFile opens).queued within
  refine ⟨(taken.run host first).state, ?_, ?_, ⟨ranLimit, kept.registry, kept.store, kept.stop,
    ?_, kept.exits⟩, ?_⟩
  · rw [step_of_busy (by simp [waiting]), runPending_eq, ranAs, settled, outcome]
  · rw [execution?, poll_of_lowered quiet.lowered quiet.noAlarm, waiting, ranAs, outcome]
    rfl
  · exact (quietTaken.run host first).1.noAlarm.trans quiet.noAlarm.symm
  · have noneLeft : taken.queue.lines = [] := by
      show shell.session.queue.lines.tail = []
      rw [waiting, List.tail_cons]
    rw [ranLines, noneLeft, List.append_nil]

/--
Reading a line and running it as one that queues a command file takes two
turns, and then the lines of the file wait as those do that are still to be typed.
-/
theorem exists_scripts_of_file
    (quiet : shell.session.Quiet)
    (idle : shell.session.queue.lines = [])
    (plain : ∀ line ∈ lines, '\n' ∉ line.toList ∧ line.toList.getLast? ≠ some '\r')
    (within : ∀ line ∈ lines, (line.length : Int) ≤ shell.session.queue.limit)
    (short : (first.length : Int) ≤ shell.session.queue.limit)
    (parsed : (shell.session.parse first).outcome = .ok (some invocation))
    (isFile : invocation.command.action = .builtin .file)
    (opens : host.Opens (.ofText (invocation.arguments.getD 0 ""))
      { bytes := Text.Utf8.encode (lines.flatMap fun line => line.toList ++ ['\n']) }) :
    ∃ queued : Shell,
      Scripts ({ shell with input := lines.map ({ text := · }) }.record .ready) queued ∧
        ∀ turns,
          turnsCourse host (turns + 2)
              ({ shell with input := [{ text := first }] }.record .ready) =
            (turnsCourse host turns queued).after
              [⟨first, .ok (.queued (Path.ofText (invocation.arguments.getD 0 "")).text
                lines.length)⟩] := by
  let start : Shell := { shell with input := [{ text := first }] }.record .ready
  have quietStart : start.session.Quiet :=
    quiet.record .ready
  have startIdle : start.session.queue.lines = [] :=
    idle
  have typedShort : (({ text := first } : TypedLine).text.length : Int) ≤
      start.session.queue.limit :=
    short
  obtain ⟨queue, accepted, sameLimit, behind⟩ := quietStart.accept_eq typedShort
  rw [startIdle, List.nil_append] at behind
  let asked : Shell :=
    { start with
      session := { start.session with queue := queue }
      input := []
      prompts := start.prompts.push start.prompt }
  have reading : start.step host = ⟨asked, .ok true⟩ := by
    rw [step_of_read startIdle rfl, accepted]
  have quietAsked : asked.session.Quiet :=
    ⟨quiet.lowered, quiet.noAlarm, quiet.noStops⟩
  have askedWithin : ∀ line ∈ lines, (line.length : Int) ≤ asked.session.queue.limit := by
    intro line listed
    exact Int.le_trans (within line listed) (Int.le_of_eq sameLimit.symm)
  rw [outcome_parse_of_undisturbed (quiet.undisturbed _)] at parsed
  obtain ⟨after, running, executed, ⟨limit, registry, store, stop, alarm, exits⟩, left⟩ :=
    step_of_file quietAsked behind plain askedWithin parsed isFile opens
  refine ⟨{ asked with session := after },
    ⟨⟨⟨limit.trans sameLimit, registry, store, stop, alarm, exits⟩, ?_⟩, rfl, quietStart⟩, ?_⟩
  · simp [left, Shell.record, Session.record, idle, Function.comp_def]
  · intro turns
    show turnsCourse host (turns + 2) start = _
    rw [turnsCourse_of_goes_on (by rw [reading]), reading, execution?_of_idle startIdle,
      turnsCourse_of_goes_on (by rw [running]), running, executed]
    rfl

/--
Running a command file is like typing its lines. Apart from the line that queues
the file, which takes two turns, every course of one loop is a course of the
other: the same lines are run with the same outcomes, to the same variables and
exit codes. So one loop ends just as the other does, with its input or with a
fault that leaves it, and with its input it ends with no line pending.
-/
theorem command_file_runs_like_typed_lines
    (quiet : shell.session.Quiet)
    (idle : shell.session.queue.lines = [])
    (plain : ∀ line ∈ lines, '\n' ∉ line.toList ∧ line.toList.getLast? ≠ some '\r')
    (within : ∀ line ∈ lines, (line.length : Int) ≤ shell.session.queue.limit)
    (short : (first.length : Int) ≤ shell.session.queue.limit)
    (parsed : (shell.session.parse first).outcome = .ok (some invocation))
    (isFile : invocation.command.action = .builtin .file)
    (opens : host.Opens (.ofText (invocation.arguments.getD 0 ""))
      { bytes := Text.Utf8.encode (lines.flatMap fun line => line.toList ++ ['\n']) }) :
    let scripted : Shell := { shell with input := [{ text := first }] }
    let typed : Shell := { shell with input := lines.map ({ text := · }) }
    let path := (Path.ofText (invocation.arguments.getD 0 "")).text
    let queued : Execution := ⟨first, .ok (.queued path lines.length)⟩
    (∀ turns, ∃ typedTurns,
      scripted.course host (turns + 2) = (typed.course host typedTurns).after [queued]) ∧
    (∀ typedTurns, ∃ turns,
      scripted.course host (turns + 2) = (typed.course host typedTurns).after [queued]) ∧
    (∀ ending, ending ≠ .outOfTurns →
      ((∃ turns, (scripted.run host turns).2 = ending) ↔
        ∃ turns, (typed.run host turns).2 = ending)) ∧
    (∀ turns, (scripted.run host turns).2 = .inputClosed →
      (scripted.run host turns).1.session.queue.lines = []) ∧
    (∀ turns, (typed.run host turns).2 = .inputClosed →
      (typed.run host turns).1.session.queue.lines = []) := by
  intro scripted typed path queued
  obtain ⟨waiting, scripts, begins⟩ :=
    exists_scripts_of_file quiet idle plain within short parsed isFile opens
  have typedTurns (turns : Nat) : ∃ typedTurns,
      scripted.course host (turns + 2) = (typed.course host typedTurns).after [queued] := by
    obtain ⟨typedTurns, same⟩ := scripts.exists_typed_turns host turns
    exact ⟨typedTurns, (begins turns).trans (congrArg (Course.after [queued]) same)⟩
  have scriptedTurns (turns : Nat) : ∃ scriptedTurns,
      scripted.course host (scriptedTurns + 2) = (typed.course host turns).after [queued] := by
    obtain ⟨scriptedTurns, same⟩ := scripts.exists_scripted_turns host turns
    exact ⟨scriptedTurns, (begins scriptedTurns).trans (congrArg (Course.after [queued]) same)⟩
  refine ⟨typedTurns, scriptedTurns, ?_, fun _ => lines_of_inputClosed,
    fun _ => lines_of_inputClosed⟩
  intro ending ended
  constructor
  · rintro ⟨turns, rfl⟩
    obtain ⟨typedTurns, same⟩ := typedTurns turns
    have later : (scripted.run host (turns + 2)).2 = (scripted.run host turns).2 :=
      congrArg Prod.snd (turn_add_of_ended ended 2)
    exact ⟨typedTurns, (congrArg Course.ending same).symm.trans later⟩
  · rintro ⟨turns, rfl⟩
    obtain ⟨scriptedTurns, same⟩ := scriptedTurns turns
    exact ⟨scriptedTurns + 2, congrArg Course.ending same⟩

/-- A command file with a line that fails takes the course of its three lines. -/
theorem command_file_runs_to_its_end :
    let lines := ["SET a 1", "GET b", "EXIT"]
    let host : Host :=
      { openFile := fun _ =>
          .ok { bytes := Text.Utf8.encode (lines.flatMap fun line => line.toList ++ ['\n']) }
        version := "1.0.0", exitCode := 3, exitEnds := false }
    let shell : Shell := ⟨offeringBuiltins 32 256, "> ", [], #[]⟩
    let scripted : Shell := { shell with input := [{ text := "FILE p" }] }
    ∃ turns,
      scripted.course host turns =
        ⟨[⟨"FILE p", .ok (.queued "p" 3)⟩, ⟨"SET a 1", .ok (.assigned "a" "1")⟩,
            ⟨"GET b", .error (.undefinedVariable "b")⟩, ⟨"EXIT", .ok (.exited 3)⟩],
          .inputClosed, ({} : Variables).set "a" "1", [3]⟩ := by
  intro lines host shell scripted
  have evaluated :
      (shell.session.stop = .lowered ∧ shell.session.alarm = none ∧
        ∀ command ∈ shell.session.registry.commands, command.action ≠ .extension .stop) ∧
      shell.session.queue.lines = [] ∧
      (∀ line ∈ lines, '\n' ∉ line.toList ∧ line.toList.getLast? ≠ some '\r') ∧
      (∀ line ∈ lines, (line.length : Int) ≤ shell.session.queue.limit) ∧
      (("FILE p".length : Nat) : Int) ≤ shell.session.queue.limit ∧
      (shell.session.parse "FILE p").outcome = .ok (some ⟨Builtin.file.command, ["p"]⟩) ∧
      ({ shell with input := lines.map ({ text := · }) } : Shell).course host 7 =
        ⟨[⟨"SET a 1", .ok (.assigned "a" "1")⟩, ⟨"GET b", .error (.undefinedVariable "b")⟩,
            ⟨"EXIT", .ok (.exited 3)⟩],
          .inputClosed, ({} : Variables).set "a" "1", [3]⟩ := by
    decide +kernel
  obtain ⟨⟨lowered, noAlarm, noStops⟩, idle, plain, within, short, parsed, typedCourse⟩ :=
    evaluated
  have opens : host.Opens (.ofText "p")
      { bytes := Text.Utf8.encode (lines.flatMap fun line => line.toList ++ ['\n']) } :=
    ⟨by decide +kernel, rfl⟩
  have alike := command_file_runs_like_typed_lines ⟨lowered, noAlarm, noStops⟩ idle plain within
    short parsed rfl opens
  obtain ⟨turns, same⟩ := alike.2.1 7
  rw [typedCourse] at same
  exact ⟨turns + 2, same⟩

end CommandFile

end Shell

end CommandConsole
