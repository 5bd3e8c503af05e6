import CommandConsole.Proofs.Logging

namespace CommandConsole

/-!
# Typed lines are interpreted one after the other

Reading a line and running it are turns of their own, and in between the line
waits on the queue. Where no line can queue others or leave the loop, the loop
comes to what comes of running the lines directly, each with the stop flag
lowered before it.
-/

/-- The command that the line names, if any, can neither queue lines nor leave the loop. -/
def Registry.Confines (registry : Registry) (host : Host) (line : String) : Prop :=
  ∀ command ∈ registry.named? line,
    command.action.mayQueue = false ∧ command.action.mayLeave host = false

instance (registry : Registry) (host : Host) (line : String) :
    Decidable (registry.Confines host line) :=
  inferInstanceAs (Decidable (∀ command ∈ registry.named? line, _))

namespace Session

/-- A run that queues nothing, sets no alarm, and fails at most with an ordinary fault. -/
structure Stays (before : Session) (ran : Attempt Session Reply) : Prop where
  registry : ran.state.registry = before.registry
  queue : ran.state.queue = before.queue
  alarm : ran.state.alarm = none
  ordinary : ∀ fault, ran.outcome = .error fault → fault.Ordinary

theorem stays_run
    {session : Session}
    {host : Host}
    {line : String}
    (lowered : session.stop = .lowered)
    (noAlarm : session.alarm = none)
    (confines : session.registry.Confines host line) :
    session.Stays (session.run host line) := by
  obtain ⟨_, raised, yielded⟩ := session.scope.within_interpret host line
  have alarmAfter : (session.afterActs (session.scope.interpret host line).acts).alarm = none := by
    simp [afterActs, noAlarm]
  rw [run_of_undisturbed (undisturbed_of_no_alarm lowered noAlarm _)]
  cases outcome : (session.scope.interpret host line).outcome with
  | error fault =>
      refine ⟨rfl, rfl, alarmAfter, ?_⟩
      rintro _ ⟨rfl⟩
      rcases raised fault outcome with ordinary | ⟨command, named, own, handled | leaves⟩
      · exact ordinary
      · exact ⟨own, handled⟩
      · exact absurd leaves (by simp [(confines command named).2])
  | ok completion =>
      obtain ⟨effect, reply⟩ := completion
      cases effect with
      | queueAhead lines =>
          rcases yielded _ outcome with none | ⟨command, named, _, queues⟩
          · cases none
          · exact absurd (queues lines rfl) (by simp [(confines command named).1])
      | _ =>
          exact ⟨rfl, rfl, alarmAfter, by rintro _ ⟨⟩⟩

end Session

namespace Shell

open Session

/-- Run lines in order, each with the stop flag lowered before it, whatever the others come to. -/
def interpretEach (host : Host) : List String → Session → List Execution × Session
  | [], session =>
      ([], session)
  | line :: lines, session =>
      let ran := session.dismissStop.run host line
      let later := interpretEach host lines ran.state
      (⟨line, ran.outcome⟩ :: later.1, later.2)

/-- Each line is run once and in its place. -/
theorem lines_interpretEach (host : Host) (lines : List String) (session : Session) :
    (interpretEach host lines session).1.map Execution.line = lines := by
  induction lines generalizing session with
  | nil =>
      rfl
  | cons line lines inductionHypothesis =>
      simp [interpretEach, inductionHypothesis]

/--
A loop with nothing pending and no alarm set, and a session that differs from
the loop's in the log and the stop flag at most.
-/
structure Abreast (session : Session) (shell : Shell) : Prop where
  alike : session.dismissStop.Alike shell.session.dismissStop
  nothingLeft : session.queue.lines = []
  idle : shell.session.queue.lines = []
  noAlarm : shell.session.alarm = none

/-- The same loop with a line that has been queued and not run yet. -/
structure Poised (session : Session) (shell : Shell) (line : String) : Prop where
  alike : session.dismissStop.Alike shell.session
  nothingLeft : session.queue.lines = []
  waiting : shell.session.queue.lines = [line]
  noAlarm : shell.session.alarm = none

/-- Between two states of a loop, one line has been read and nothing else of the input. -/
structure ReadsOne (before after : Shell) (line : TypedLine) : Prop where
  input : before.input = line :: after.input
  prompt : after.prompt = before.prompt
  prompts : after.prompts = before.prompts.push before.prompt
  limit : after.session.queue.limit = before.session.queue.limit
  registry : after.session.registry = before.session.registry

section Reading

variable {session : Session} {shell : Shell} {line : TypedLine} {input : List TypedLine}

/-- A line that is too long is read and dropped. -/
theorem Abreast.read_long
    (abreast : Abreast session shell)
    (typed : shell.input = line :: input)
    (tooLong : shell.session.queue.limit < line.text.length)
    (host : Host) :
    ∃ read : Shell,
      shell.step host = ⟨read, .ok true⟩ ∧ ReadsOne shell read line ∧ Abreast session read := by
  obtain ⟨⟨limit, registry, store, stop, alarm, exits⟩, nothingLeft, idle, noAlarm⟩ := abreast
  refine ⟨_, step_of_read idle typed, ?_⟩
  rw [accept_of_long tooLong]
  exact ⟨⟨typed, rfl, rfl, rfl, rfl⟩,
    ⟨⟨limit, registry, store, rfl, alarm, exits⟩, nothingLeft, idle, noAlarm⟩⟩

/-- A line that is short enough is read and queued. -/
theorem Abreast.read_short
    (abreast : Abreast session shell)
    (typed : shell.input = line :: input)
    (short : (line.text.length : Int) ≤ shell.session.queue.limit)
    (host : Host) :
    ∃ read : Shell,
      shell.step host = ⟨read, .ok true⟩ ∧ ReadsOne shell read line ∧
        Poised session read line.text := by
  obtain ⟨⟨limit, registry, store, stop, alarm, exits⟩, nothingLeft, idle, noAlarm⟩ := abreast
  obtain ⟨queue, accepted, sameLimit, waiting⟩ := exists_accept_of_short short
  rw [idle, List.nil_append] at waiting
  refine ⟨_, step_of_read idle typed, ?_⟩
  rw [accepted]
  exact ⟨⟨typed, rfl, rfl, sameLimit, rfl⟩,
    ⟨⟨sameLimit.trans limit, registry, store, rfl, alarm, exits⟩, nothingLeft, waiting, noAlarm⟩⟩

end Reading

section Running

variable {session : Session} {shell : Shell} {host : Host} {line : String}

/-- On the queue or not, a line is run in the same session but for the log. -/
theorem Poised.backed_taken (poised : Poised session shell line) :
    session.dismissStop.Backed []
      ({ shell.session with queue := shell.session.queue.tail }.record (.running line)) := by
  obtain ⟨⟨limit, registry, store, stop, alarm, exits⟩, nothingLeft, waiting, _⟩ := poised
  refine ⟨⟨limit, registry, store, stop, alarm, exits⟩, ?_⟩
  simp [Session.record, dismissStop, Queue.tail, waiting, nothingLeft]

theorem abreast_of_settled
    {ran : Attempt Session Reply}
    (alike : session.Alike ran.state)
    (nothingLeft : session.queue.lines = [])
    (idle : ran.state.queue.lines = [])
    (noAlarm : ran.state.alarm = none)
    (shell : Shell) :
    Abreast session { shell with session := (settled ran).state } := by
  obtain ⟨log, after⟩ := exists_log_settled ran
  obtain ⟨limit, registry, store, stop, alarm, exits⟩ := alike
  rw [after]
  exact ⟨⟨limit, registry, store, rfl, alarm, exits⟩, nothingLeft, idle, noAlarm⟩

/-- The line that was queued is run, and the loop goes on with nothing pending. -/
theorem Poised.run
    (poised : Poised session shell line)
    (confines : shell.session.registry.Confines host line) :
    ∃ after : Session,
      shell.step host = ⟨{ shell with session := after }, .ok true⟩ ∧
        shell.execution? host = some ⟨line, (session.dismissStop.run host line).outcome⟩ ∧
        after.queue.limit = shell.session.queue.limit ∧
        after.registry = shell.session.registry ∧
        Abreast (session.dismissStop.run host line).state { shell with session := after } := by
  let taken : Session :=
    { shell.session with queue := shell.session.queue.tail }.record (.running line)
  have lowered : shell.session.stop = .lowered :=
    poised.alike.stop
  have inStep := poised.backed_taken.run host line
  have stays : taken.Stays (taken.run host line) :=
    stays_run lowered poised.noAlarm confines
  have ranAs : pollAndRun shell.session host = taken.run host line :=
    pollAndRun_of_lowered lowered poised.noAlarm host poised.waiting
  have kept := kept_settled (taken.run host line)
  have goesOn : (settled (taken.run host line)).outcome = .ok true := by
    unfold settled
    split
    · rfl
    · next fault failed =>
        simp [(stays.ordinary fault failed).2]
  have notStopped : (session.dismissStop.run host line).outcome ≠ .error .stopped := by
    intro stopped
    exact (stays.ordinary _ (inStep.outcome.trans stopped)).1 rfl
  have idle : (taken.run host line).state.queue.lines = [] := by
    rw [stays.queue]
    simp [taken, Session.record, Queue.tail, poised.waiting]
  have nothingLeft : (session.dismissStop.run host line).state.queue.lines = [] := by
    have pending := (inStep.backed notStopped).pending
    rw [List.append_nil] at pending
    exact pending.symm.trans idle
  refine ⟨(settled (taken.run host line)).state, ?_, ?_, ?_, ?_,
    abreast_of_settled inStep.alike nothingLeft idle stays.alarm shell⟩
  · rw [step_of_busy (by simp [poised.waiting]), runPending_eq, ranAs, goesOn]
  · rw [execution?, poll_of_lowered lowered poised.noAlarm, poised.waiting, ranAs,
      ← inStep.outcome]
    rfl
  · rw [kept.queue, stays.queue]
    rfl
  · rw [kept.registry, stays.registry]
    rfl

end Running

/-- A loop that reads its input to the end comes to what its lines are interpreted to. -/
structure Interprets
    (host : Host)
    (turns : Nat)
    (shell : Shell)
    (interpreted : List Execution × Session) :
    Prop where
  course :
    turnsCourse host turns shell =
      ⟨interpreted.1, .inputClosed, interpreted.2.store, interpreted.2.exits⟩
  prompts :
    (turn host turns shell).1.prompts =
      shell.prompts ++ (List.replicate (shell.input.length + 1) shell.prompt).toArray
  readToEnd : (turn host turns shell).1.input = []

section Run

variable {session : Session} {shell next : Shell} {host : Host}

/-- A loop that reads to the end after a turn has read to the end with that turn, too. -/
theorem Interprets.of_turn
    {turns : Nat}
    {interpreted : List Execution × Session}
    (later : Interprets host turns next interpreted)
    (goesOn : shell.step host = ⟨next, .ok true⟩)
    (shows :
      next.prompts ++ (List.replicate (next.input.length + 1) next.prompt).toArray =
        shell.prompts ++ (List.replicate (shell.input.length + 1) shell.prompt).toArray) :
    Interprets host (turns + 1) shell
      ((shell.execution? host).toList ++ interpreted.1, interpreted.2) := by
  obtain ⟨course, prompts, readToEnd⟩ := later
  have turned : turn host (turns + 1) shell = turn host turns next := by
    simp [turn, goesOn]
  refine ⟨?_, ?_, ?_⟩
  · rw [turnsCourse_of_goes_on (by rw [goesOn]), goesOn, course]
    rfl
  · rw [turned, prompts, shows]
  · rw [turned, readToEnd]

/-- One more line that is read takes one more prompt. -/
theorem ReadsOne.shows
    {line : TypedLine}
    (reads : ReadsOne shell next line) :
    next.prompts ++ (List.replicate (next.input.length + 1) next.prompt).toArray =
      shell.prompts ++ (List.replicate (shell.input.length + 1) shell.prompt).toArray := by
  obtain ⟨input, prompt, prompts, _, _⟩ := reads
  rw [input, prompt, prompts]
  exact Array.ext' (by simp [List.replicate_succ])

/-- With no line left to read, the loop ends as it is. -/
theorem Abreast.interprets_nothing
    (abreast : Abreast session shell)
    (readToEnd : shell.input = [])
    (turns : Nat) :
    Interprets host (turns + 1) shell ([], session) := by
  have ended : turn host (turns + 1) shell =
      (({ shell with prompts := shell.prompts.push shell.prompt } : Shell).record .inputClosed,
        .inputClosed) := by
    simp only [turn, step_of_closed abreast.idle readToEnd]
  refine ⟨?_, ?_, ?_⟩
  · rw [turnsCourse_of_closed abreast.idle readToEnd]
    exact congrArg₂ (Course.mk [] .inputClosed) abreast.alike.store abreast.alike.exits
  · simp [ended, Shell.record, readToEnd]
  · simp [ended, Shell.record, readToEnd]

/--
Each line that is short enough is run as it is interpreted, and the loop ends.
A line takes one turn to read and, if it is queued, one to run.
-/
theorem Abreast.interprets
    {input : List TypedLine}
    (abreast : Abreast session shell)
    (typed : shell.input = input)
    (confines : ∀ line ∈ input, shell.session.registry.Confines host line.text)
    (more : Nat) :
    let lines := (input.map TypedLine.text).filter (Queue.accepts shell.session.queue.limit)
    Interprets host (more + 1 + lines.length + input.length) shell
      (interpretEach host lines session) := by
  induction input generalizing session shell with
  | nil =>
      exact abreast.interprets_nothing typed more
  | cons line input inductionHypothesis =>
      rw [List.forall_mem_cons] at confines
      have inputOf {next : Shell} (reads : ReadsOne shell next line) : next.input = input := by
        have sameInput := reads.input.symm.trans typed
        exact (List.cons.inj sameInput).2
      by_cases short : (line.text.length : Int) ≤ shell.session.queue.limit
      · obtain ⟨read, reading, reads, poised⟩ := abreast.read_short typed short host
        have rest := inputOf reads
        rw [← reads.registry] at confines
        obtain ⟨after, running, executed, limit, registry, abreastNext⟩ := poised.run confines.1
        have later := inductionHypothesis abreastNext rest (by rw [registry]; exact confines.2)
        dsimp only at later
        rw [limit, reads.limit] at later
        have accepted : Queue.accepts shell.session.queue.limit line.text = true :=
          decide_eq_true short
        have ran := (later.of_turn running rfl).of_turn reading reads.shows
        rw [executed, execution?_of_idle abreast.idle] at ran
        simp only [List.map_cons, List.filter_cons, accepted, if_true, List.length_cons,
          ← Nat.add_assoc]
        rw [Nat.add_right_comm _ 1 input.length]
        exact ran
      · have tooLong : shell.session.queue.limit < line.text.length :=
          Int.not_le.mp short
        obtain ⟨read, reading, reads, abreastNext⟩ := abreast.read_long typed tooLong host
        have later := inductionHypothesis abreastNext (inputOf reads)
          (by rw [reads.registry]; exact confines.2)
        dsimp only at later
        rw [reads.limit] at later
        have refused : Queue.accepts shell.session.queue.limit line.text = false :=
          decide_eq_false short
        have ran := later.of_turn reading reads.shows
        rw [execution?_of_idle abreast.idle] at ran
        simp only [List.map_cons, List.filter_cons, refused]
        exact ran

/--
The loop is nothing but the interpretation of the typed lines one after the
other. Where no line can queue others or leave the loop, and no alarm is set,
the loop ends when it has shown its prompt once for each line and once more for
the end of the input. It has then run just the lines that are short enough, each
once and in order, to the outcomes, variables and exit codes that come of
running these lines directly, each with the stop flag lowered before it; and no
line is pending.
-/
theorem typed_lines_are_interpreted_in_order
    (idle : shell.session.queue.lines = [])
    (noAlarm : shell.session.alarm = none)
    (confines : ∀ line ∈ shell.input, shell.session.registry.Confines host line.text)
    (more : Nat) :
    let lines :=
      (shell.input.map TypedLine.text).filter (Queue.accepts shell.session.queue.limit)
    let interpreted := interpretEach host lines shell.session
    let turns := more + 1 + lines.length + shell.input.length
    let ended := (shell.run host turns).1
    shell.course host turns =
        ⟨interpreted.1, .inputClosed, interpreted.2.store, interpreted.2.exits⟩ ∧
      interpreted.1.map Execution.line = lines ∧
      shell.session.LogsRunning ended.session lines ∧
      ended.prompts =
        shell.prompts ++ (List.replicate (shell.input.length + 1) shell.prompt).toArray ∧
      ended.input = [] ∧ ended.session.queue.lines = [] := by
  intro lines interpreted turns ended
  have abreast : Abreast shell.session (shell.record .ready) :=
    ⟨⟨rfl, rfl, rfl, rfl, rfl, rfl⟩, idle, idle, noAlarm⟩
  have interprets : Interprets host turns (shell.record .ready) interpreted :=
    abreast.interprets rfl confines more
  obtain ⟨course, prompts, readToEnd⟩ := interprets
  have runLines : interpreted.1.map Execution.line = lines :=
    lines_interpretEach host lines shell.session
  have executed : executions host turns (shell.record .ready) = interpreted.1 :=
    congrArg Course.executions course
  have logged : shell.session.LogsRunning ended.session
      ((executions host turns (shell.record .ready)).map Execution.line) :=
    (logsRunning_record shell.session .ready).trans (logsRunning_turn host turns _)
  rw [executed, runLines] at logged
  exact ⟨course, runLines, logged, prompts, readToEnd,
    lines_of_inputClosed (congrArg Course.ending course)⟩

/--
A request that is left behind does not reach the line after it, a line that is
too long is not run, and neither a blank line nor one that fails ends the loop.
-/
theorem typed_lines_with_stop_are_interpreted :
    let host : Host := ⟨fun path => .error (.system (.missing path.text)), "1.0.0", 3, false⟩
    let halt : Command := { name := "HALT", action := .extension .stop }
    let session : Session :=
      { ((offeringBuiltins 32 16).registerAll [halt]).state with stop := .raised }
    let shell : Shell :=
      ⟨session, "> ",
        [{ text := "HALT" }, { text := "SET a \"x y\"", interrupts := true },
          { text := "SET b 0123456789abc" }, { text := " " }, { text := "GET b" },
          { text := "EXIT" }], #[]⟩
    shell.course host 12 =
        ⟨[⟨"HALT", .ok (.performed "stop" [])⟩, ⟨"SET a \"x y\"", .ok (.assigned "a" "x y")⟩,
            ⟨" ", .ok .blank⟩, ⟨"GET b", .error (.undefinedVariable "b")⟩,
            ⟨"EXIT", .ok (.exited 3)⟩],
          .inputClosed, ({} : Variables).set "a" "x y", [3]⟩ ∧
      (shell.run host 12).1.prompts = (List.replicate 7 "> ").toArray ∧
      (shell.run host 12).1.session.queue.lines = [] := by
  intro host halt session shell
  let lines := ["HALT", "SET a \"x y\"", " ", "GET b", "EXIT"]
  have evaluated :
      shell.session.queue.lines = [] ∧ shell.session.alarm = none ∧
        (∀ line ∈ shell.input, shell.session.registry.Confines host line.text) ∧
        (shell.input.map TypedLine.text).filter (Queue.accepts shell.session.queue.limit) =
          lines ∧
        (interpretEach host lines shell.session).1 =
          [⟨"HALT", .ok (.performed "stop" [])⟩, ⟨"SET a \"x y\"", .ok (.assigned "a" "x y")⟩,
            ⟨" ", .ok .blank⟩, ⟨"GET b", .error (.undefinedVariable "b")⟩,
            ⟨"EXIT", .ok (.exited 3)⟩] ∧
        (interpretEach host lines shell.session).2.store = ({} : Variables).set "a" "x y" ∧
        (interpretEach host lines shell.session).2.exits = [3] := by
    decide +kernel
  obtain ⟨idle, noAlarm, confines, accepted, executed, store, exits⟩ := evaluated
  have interpreted := typed_lines_are_interpreted_in_order idle noAlarm confines 0
  have turns : 0 + 1 + lines.length + shell.input.length = 12 :=
    rfl
  rw [accepted] at interpreted
  dsimp only at interpreted
  rw [turns] at interpreted
  obtain ⟨course, _, _, prompts, _, nonePending⟩ := interpreted
  rw [executed, store, exits] at course
  exact ⟨course, prompts.trans (by rfl), nonePending⟩

end Run

end Shell

end CommandConsole
