import CommandConsole.Proofs.Interruption
import CommandConsole.Proofs.Invocation
import CommandConsole.Proofs.Path

namespace CommandConsole

/-!
# Which faults leave the read loop

The loop handles errors of commands and of the operating system: it logs them
and goes on. Of the built-in commands only that which reads a file can raise
any other fault as long as the program does not end, and only for a path that
has no form in the encoding of file names, or one with a null character. Such a
fault leaves the loop with all but the line it ran, so the next turn goes on
with the line behind.
-/

namespace Fault

/-- The kinds of faults that the loop tells apart. -/
inductive Kind where
  /-- An error of a command, of its registration or of the queue. -/
  | command
  /-- An error of the operating system. -/
  | system
  /-- A value that cannot be used at all. -/
  | value
  /-- The end of the program. -/
  | exit
  deriving Repr, DecidableEq

/-- The kind of a fault. -/
def kind : Fault → Kind
  | .unknownCommand _
  | .rejectedCommand _ _
  | .nameTooLong _ _
  | .duplicateCommand _
  | .missingParameter _ _
  | .unexpectedParameter _ _
  | .undefinedVariable _
  | .stopped
  | .lineTooLong _ _
  | .queueEmpty
  | .undecodableFile _ _
  | .failed _ =>
      .command
  | .system _ =>
      .system
  | .unusableValue _ =>
      .value
  | .exit _ =>
      .exit

theorem isHandled_eq_false_iff {fault : Fault} :
    fault.isHandled = false ↔ fault.kind ≠ .command ∧ fault.kind ≠ .system := by
  cases fault <;> simp [isHandled, kind]

end Fault

theorem Builtin.action_command (command : Builtin) :
    command.command.action = .builtin command := by
  cases command <;> rfl

/-- A host refuses a path before it asks the operating system for the file. -/
inductive Host.Refuses (host : Host) (path : String) : Fault → Prop where
  /-- The path has no form in the encoding of file names. -/
  | unencodable
      {text : String}
      (refused : host.openFile (.ofText path) = .error (.unencodable text)) :
      Refuses host path (.unusableValue text)
  /-- The path has a form, and there is a null character in it. -/
  | null
      (encodable : ∀ text, host.openFile (.ofText path) ≠ .error (.unencodable text))
      (held : '\x00' ∈ path.toList) :
      Refuses host path .nullInPath

section Performing

variable {host : Host} {argument : String} {fault : Fault}

/-- Reading a file raises a fault that is not handled just if its path is refused. -/
theorem Host.read_unhandled_iff :
    (host.read (.ofText argument) = .error fault ∧ fault.isHandled = false) ↔
      host.Refuses argument fault := by
  have null : (FileSystem.Path.ofText argument).text.toList.contains '\x00' = true ↔
      '\x00' ∈ argument.toList := by
    rw [List.contains_iff_mem]
    exact FileSystem.Path.mem_text_ofText_iff (by decide) (by decide) argument
  constructor
  · rintro ⟨raised, unhandled⟩
    unfold read at raised
    split at raised
    · next text refused =>
        obtain rfl := Except.error.inj raised
        exact .unencodable refused
    · next held encodable =>
        obtain rfl := Except.error.inj raised
        exact .null encodable (null.mp held)
    · obtain rfl := Except.error.inj raised
      cases unhandled
    · cases raised
  · rintro (refused | ⟨encodable, held⟩)
    · refine ⟨?_, rfl⟩
      rw [read, refused]
    · refine ⟨?_, rfl⟩
      rw [read, null.mpr held]
      cases opened : host.openFile (.ofText argument) with
      | ok readout =>
          rfl
      | error reason =>
          cases reason with
          | unencodable text =>
              exact absurd opened (encodable text)
          | system fault =>
              rfl

theorem Builtin.performFile_of_refuses (refuses : host.Refuses argument fault) :
    performFile host argument = .fail fault :=
  Script.bind_of_error (Host.read_unhandled_iff.mpr refuses).1

/-- Of the faults of reading a file only those of its path are not handled. -/
theorem Builtin.refuses_of_performFile
    (raised : (performFile host argument).outcome = .error fault)
    (unhandled : fault.isHandled = false) :
    host.Refuses argument fault := by
  cases read : host.read (.ofText argument) with
  | error own =>
      have fails : performFile host argument = .fail own :=
        Script.bind_of_error read
      rw [fails] at raised
      obtain rfl := Except.error.inj raised
      exact Host.read_unhandled_iff.mp ⟨read, unhandled⟩
  | ok readout =>
      have succeeds : (Script.ofExcept (host.read (.ofText argument))).outcome = .ok readout :=
        read
      rw [performFile, Script.bind_of_ok succeeds] at raised
      have handled := (ordinary_of_queueContent raised).2
      exact (Bool.false_ne_true (unhandled.symm.trans handled)).elim

/-- A built-in command that does not end the program raises no other fault that leaves the loop. -/
theorem Builtin.refuses_of_unhandled
    {command : Builtin}
    {scope : Scope}
    {arguments : List String}
    (goesOn : host.exitEnds = false)
    (raised : (command.perform scope host arguments).outcome = .error fault)
    (unhandled : fault.isHandled = false) :
    command = .file ∧ host.Refuses (arguments.getD 0 "") fault := by
  obtain ⟨_, handled | leaves⟩ := (command.within_perform scope host arguments).raised fault raised
  · exact (Bool.false_ne_true (unhandled.symm.trans handled)).elim
  · cases command with
    | file =>
        exact ⟨rfl, refuses_of_performFile raised unhandled⟩
    | exit =>
        exact (Bool.false_ne_true (goesOn.symm.trans leaves)).elim
    | _ =>
        exact (Bool.false_ne_true leaves).elim

end Performing

namespace Invocation

/-- An invocation of the command that reads a file has the path as its one argument. -/
theorem exists_path_of_file
    {registry : Registry}
    {store : Variables}
    {line : String}
    {invocation : Invocation}
    (found : (ofLine? registry store line).outcome = .ok (some invocation))
    (isFile : invocation.command = Builtin.file.command) :
    ∃ path, invocation = ⟨Builtin.file.command, [path]⟩ := by
  obtain ⟨_, _, _, _, bound⟩ := exists_of_outcome_ofLine? found
  have one : invocation.arguments.length = 1 := by
    rw [length_of_bindParameters bound, isFile]
    rfl
  obtain ⟨path, single⟩ := List.length_eq_one_iff.mp one
  exact ⟨path, by rw [← isFile, ← single]⟩

end Invocation

/-- A line is interpreted by finding its invocation and performing what is found. -/
theorem Scope.interpret_eq (scope : Scope) (host : Host) (line : String) :
    scope.interpret host line =
      Invocation.ofLine? scope.registry scope.store line >>= fun found =>
        found.elim (pure ⟨.none, .blank⟩) fun invocation => invocation.perform scope host := by
  unfold interpret
  congr 1
  funext found
  cases found <;> rfl

namespace Session

variable {session : Session} {host : Host} {line : String} {fault : Fault}

/-- Where playing a script ends in a fault that is not handled, the script comes to this fault. -/
theorem outcome_of_playScript_unhandled
    {script : Script α}
    (raised : (session.playScript script).outcome = .error fault)
    (unhandled : fault.isHandled = false) :
    script.outcome = .error fault := by
  unfold playScript at raised
  dsimp only at raised
  rcases session.play_cases script.acts with ⟨played, _⟩ | ⟨stopped, _⟩
  · rwa [played] at raised
  · rw [stopped] at raised
    obtain rfl := Except.error.inj raised
    exact nomatch unhandled

/-- A run is what is played of its line, brought to its end. -/
theorem run_eq_conclude (session : Session) (host : Host) (line : String) :
    session.run host line =
      (session.playScript (session.scope.interpret host line)).state.conclude
        (session.playScript (session.scope.interpret host line)).outcome := by
  unfold run
  dsimp only
  generalize session.playScript (session.scope.interpret host line) = played
  obtain ⟨state, outcome⟩ := played
  cases outcome with
  | error fault =>
      rfl
  | ok completion =>
      cases applied : state.apply completion.effect with
      | error fault =>
          simp only [conclude, applied]
      | ok next =>
          simp only [conclude, applied]

theorem outcome_of_conclude_unhandled
    {outcome : Except Fault Completion}
    (raised : (session.conclude outcome).outcome = .error fault)
    (unhandled : fault.isHandled = false) :
    outcome = .error fault := by
  cases outcome with
  | error own =>
      exact congrArg Except.error (Except.error.inj raised)
  | ok completion =>
      simp only [conclude] at raised
      cases applied : session.apply completion.effect with
      | ok next =>
          rw [applied] at raised
          cases raised
      | error refused =>
          rw [applied] at raised
          obtain rfl := Except.error.inj raised
          obtain ⟨lines, _, rfl⟩ := exists_of_apply_error applied
          cases unhandled

/-- The session offers no command but built-in ones. -/
def OffersOnlyBuiltins (session : Session) : Prop :=
  ∀ command ∈ session.registry.commands, ∃ builtin : Builtin, command = builtin.command

/--
With built-in commands alone, a run raises a fault that is not handled just
where its line reads a file and the path is refused with this fault.
-/
theorem run_unhandled_iff
    (onlyBuiltins : session.OffersOnlyBuiltins)
    (goesOn : host.exitEnds = false) :
    ((session.run host line).outcome = .error fault ∧ fault.isHandled = false) ↔
      ∃ path,
        (session.parse line).outcome = .ok (some ⟨Builtin.file.command, [path]⟩) ∧
          host.Refuses path fault := by
  constructor
  · rintro ⟨raised, unhandled⟩
    cases parsed : (session.parse line).outcome with
    | error own =>
        rw [run_of_parse_error host parsed] at raised
        obtain rfl := Except.error.inj raised
        have comes := outcome_of_playScript_unhandled parsed unhandled
        have ordinary := (Invocation.within_ofLine? _ _ _).raised own comes
        exact nomatch unhandled.symm.trans ordinary.2
    | ok found =>
        rw [run_eq_conclude] at raised
        have comes := outcome_of_playScript_unhandled
          (outcome_of_conclude_unhandled raised unhandled) unhandled
        have parses : (Invocation.ofLine? session.scope.registry session.scope.store line).outcome =
            .ok found :=
          (outcome_of_playScript_ok parsed).1
        rw [Scope.interpret_eq, Script.outcome_bind, parses] at comes
        cases found with
        | none =>
            exact nomatch comes
        | some invocation =>
            have performs : (invocation.perform session.scope host).outcome = .error fault :=
              comes
            obtain ⟨first, following, _, named, _⟩ := Invocation.exists_of_outcome_ofLine? parses
            obtain ⟨builtin, isBuiltin⟩ := onlyBuiltins _ (Registry.mem_of_lookup named).1
            rw [Invocation.perform, isBuiltin, builtin.action_command] at performs
            obtain ⟨rfl, refuses⟩ := Builtin.refuses_of_unhandled goesOn performs unhandled
            obtain ⟨path, rfl⟩ := Invocation.exists_path_of_file parses isBuiltin
            exact ⟨path, rfl, refuses⟩
  · rintro ⟨path, parsed, refuses⟩
    refine ⟨?_, (Host.read_unhandled_iff.mpr refuses).2⟩
    have played := playScript_bind_of_ok parsed fun found =>
      found.elim (pure ⟨.none, .blank⟩) fun invocation => invocation.perform session.scope host
    have fails : Invocation.perform ⟨Builtin.file.command, [path]⟩ session.scope host =
        .fail fault :=
      Builtin.performFile_of_refuses refuses
    rw [Option.elim_some, fails] at played
    rw [run_eq_conclude, Scope.interpret_eq]
    exact congrArg (fun attempt => (attempt.state.conclude attempt.outcome).outcome) played

end Session

namespace Shell

open Session

/-- What the loop itself logs of what a turn has run: a failure that it handles. -/
def reported : Except Fault Reply → List Event
  | .ok _ =>
      []
  | .error fault =>
      if fault.kind = .command ∨ fault.kind = .system then [.failure fault] else []

/-- A later loop has all of an earlier one but its first pending line, and goes on behind it. -/
structure LosesFirstLine (before after : Shell) : Prop where
  queue : after.session.queue = before.session.queue.tail
  store : after.session.store = before.session.store
  stop : after.session.stop = before.session.stop
  registry : after.session.registry = before.session.registry
  exits : after.session.exits = before.session.exits
  input : after.input = before.input
  prompts : after.prompts = before.prompts
  goesOn : after.session.alarm ≠ some 0 → ∀ host,
    (after.execution? host).map Execution.line = before.session.queue.lines.tail.head?

section Settling

variable {ran : Attempt Session Reply} {fault : Fault}

/-- A fault leaves the loop if a run raises it and the loop does not handle it. -/
theorem outcome_settled_eq_error_iff :
    (settled ran).outcome = .error fault ↔
      ran.outcome = .error fault ∧ fault.isHandled = false := by
  unfold settled
  cases ran.outcome with
  | ok reply =>
      simp
  | error raised =>
      cases handled : raised.isHandled with
      | true =>
          suffices raised = fault → fault.isHandled ≠ false by simpa [handled]
          rintro rfl
          simp [handled]
      | false =>
          suffices raised = fault → fault.isHandled = false by simpa [handled]
          rintro rfl
          exact handled

theorem outcome_settled_ok_or_error (ran : Attempt Session Reply) :
    (∃ fault, (settled ran).outcome = .error fault) ∨ (settled ran).outcome = .ok true := by
  unfold settled
  split
  · exact .inr rfl
  · split
    · exact .inr rfl
    · exact .inl ⟨_, rfl⟩

theorem log_settled (ran : Attempt Session Reply) :
    (settled ran).state.log = ran.state.log ++ (reported ran.outcome).toArray := by
  unfold settled reported
  cases ran.outcome with
  | ok reply =>
      simp
  | error raised =>
      cases raised <;> simp [Fault.isHandled, Fault.kind, Session.record]

/-- The loop reports a stop as a warning and any other failure as an error. -/
theorem level_of_reported
    {outcome : Except Fault Reply}
    {event : Event}
    (member : event ∈ reported outcome) :
    event.source = .shell ∧
      event.level = if outcome = .error .stopped then .warning else .error := by
  cases outcome with
  | ok reply =>
      exact nomatch member
  | error raised =>
      simp only [reported] at member
      split at member
      · obtain rfl := List.mem_singleton.mp member
        refine ⟨rfl, ?_⟩
        cases raised <;> simp [Event.level, Event.failureLevel]
      · exact nomatch member

end Settling

section Turn

variable {shell : Shell} {line : String} {rest : List String}

/-- What a turn logs before it reports a failure is not logged by the loop. -/
theorem logs_pollAndRun
    (waiting : shell.session.queue.lines = line :: rest)
    (host : Host) :
    shell.session.Logs (pollAndRun shell.session host).state fun event =>
      event.source ≠ .shell := by
  have notOfLoop (event : Event) (ofRun : event.OfRun) : event.source ≠ .shell := by
    rcases ofRun with source | source | source <;> simp [source]
  have polls := shell.session.logs_poll.mono notOfLoop
  rcases shell.session.pollAndRun_cases waiting host with ⟨_, _, runs⟩ | ⟨_, stops⟩
  · have starts : shell.session.poll.state.Logs (shell.session.taken line) fun event =>
        event.source ≠ .shell :=
      logs_record { shell.session.poll.state with
        queue := shell.session.poll.state.queue.tail } (by simp [Event.source])
    rw [runs]
    exact (polls.trans starts).trans ((logs_run _ host line).mono notOfLoop)
  · rw [stops]
    exact polls

/-- With the flag lowered and no alarm due, a turn runs the first pending line. -/
theorem execution?_of_lowered
    (lowered : shell.session.stop = .lowered)
    (notDue : shell.session.alarm ≠ some 0)
    (host : Host) :
    (shell.execution? host).map Execution.line = shell.session.queue.lines.head? := by
  have undisturbed : shell.session.Undisturbed (0 + 1) := by
    refine ⟨lowered, fun count armed => Nat.pos_of_ne_zero ?_⟩
    rintro rfl
    exact notDue armed
  simp [execution?, poll_of_undisturbed undisturbed, Function.comp_def]

/-- A turn that a fault leaves loses its line and nothing else. -/
theorem losesFirstLine_step
    (waiting : shell.session.queue.lines = line :: rest)
    {host : Host}
    {fault : Fault}
    (escapes : (shell.step host).outcome = .error fault) :
    shell.LosesFirstLine (shell.step host).state := by
  have step := (step_of_busy (by simp [waiting]) host).trans (shell.runPending_eq host)
  rw [step] at escapes ⊢
  obtain ⟨raised, unhandled⟩ := outcome_settled_eq_error_iff.mp escapes
  rcases shell.session.pollAndRun_cases waiting host with ⟨goesOn, polled, runs⟩ | ⟨_, stops⟩
  · have kept : (shell.session.taken line).Kept (settled (pollAndRun shell.session host)).state := by
      refine .trans ?_ (kept_settled _)
      rw [runs] at raised ⊢
      rcases (shell.session.taken line).run_cases host line with
        ⟨reply, done⟩ | ⟨_, _, _, kept⟩ | ⟨stopped, _⟩
      · rw [done] at raised
        exact nomatch raised
      · exact kept
      · rw [stopped] at raised
        obtain rfl := Except.error.inj raised
        exact nomatch unhandled
    have queue : (settled (pollAndRun shell.session host)).state.queue =
        shell.session.queue.tail :=
      kept.queue.trans (congrArg Queue.tail polled.queue)
    have stop := kept.stop.trans polled.stop
    refine ⟨queue, kept.store.trans polled.store, stop, kept.registry.trans polled.registry,
      kept.exits.trans polled.exits, rfl, rfl, fun notDue next => ?_⟩
    have lowered := stop.trans (lowered_of_poll goesOn)
    rw [execution?_of_lowered lowered notDue, queue]
    rfl
  · rw [stops] at raised
    obtain rfl := Except.error.inj raised
    exact nomatch unhandled

/--
The only faults that leave the loop are those that are neither errors of
commands nor errors of the operating system; the loop reports any other failure
as the last event of its turn. With built-in commands alone, and a program that
does not end, only reading a file leaves the loop, just where the path has no
form in the encoding of file names or holds a null character. Any fault that
leaves the loop leaves all but the line that has raised it, and where no stop is
requested by then, the next turn runs the line behind.
-/
theorem only_refused_path_leaves_loop
    (waiting : shell.session.queue.lines = line :: rest)
    (host : Host) :
    let ran := pollAndRun shell.session host
    let stepped := shell.step host
    (∀ fault, stepped.outcome = .error fault ↔
      ran.outcome = .error fault ∧ fault.kind ≠ .command ∧ fault.kind ≠ .system) ∧
    ((∃ fault, stepped.outcome = .error fault) ∨ stepped.outcome = .ok true) ∧
    (∃ events : List Event,
      (∀ event ∈ events, event.source ≠ .shell) ∧
        stepped.state.session.log =
          shell.session.log ++ (events ++ reported ran.outcome).toArray) ∧
    (∀ event ∈ reported ran.outcome,
      event.source = .shell ∧
        event.level = if ran.outcome = .error .stopped then .warning else .error) ∧
    (shell.session.OffersOnlyBuiltins → host.exitEnds = false →
      ∀ fault, stepped.outcome = .error fault ↔
        shell.session.poll.outcome = .ok () ∧
          ∃ path,
            ((shell.session.taken line).parse line).outcome =
                .ok (some ⟨Builtin.file.command, [path]⟩) ∧
              host.Refuses path fault) ∧
    (∀ fault, stepped.outcome = .error fault → shell.LosesFirstLine stepped.state) := by
  intro ran stepped
  have step : stepped = ⟨{ shell with session := (settled ran).state }, (settled ran).outcome⟩ :=
    (step_of_busy (by simp [waiting]) host).trans (shell.runPending_eq host)
  have escapes (fault : Fault) : stepped.outcome = .error fault ↔
      ran.outcome = .error fault ∧ fault.isHandled = false := by
    rw [step]
    exact outcome_settled_eq_error_iff
  refine ⟨?_, ?_, ?_, ?_, ?_, fun fault => losesFirstLine_step waiting⟩
  · intro fault
    rw [escapes, Fault.isHandled_eq_false_iff]
  · rw [step]
    exact outcome_settled_ok_or_error ran
  · obtain ⟨events, log, sources⟩ := logs_pollAndRun waiting host
    refine ⟨events, sources, ?_⟩
    rw [step]
    refine (log_settled ran).trans ?_
    rw [log]
    simp [Array.append_assoc]
  · exact fun event => level_of_reported
  · intro onlyBuiltins goesOn fault
    rw [escapes]
    rcases shell.session.pollAndRun_cases waiting host with
      ⟨polled, kept, runs⟩ | ⟨stopped, stops⟩
    · have offers : (shell.session.taken line).OffersOnlyBuiltins :=
        fun command member => onlyBuiltins command (kept.registry ▸ member)
      have ranRuns : ran = (shell.session.taken line).run host line := runs
      rw [ranRuns, run_unhandled_iff offers goesOn, polled]
      simp
    · have ranStops : ran.outcome = .error .stopped := congrArg Attempt.outcome stops
      rw [ranStops, stopped]
      constructor
      · rintro ⟨raised, unhandled⟩
        obtain rfl := Except.error.inj raised
        exact nomatch unhandled
      · rintro ⟨polled, _⟩
        exact nomatch polled

end Turn

/--
A path without a null character leaves the loop where file names are in ASCII.
And behind a line that leaves the loop the next one is not run, if a stop is
requested before its turn.
-/
theorem path_without_null_leaves_loop :
    let reason := "'ascii' codec can't encode characters in position 0-3: ordinal not in range(128)"
    let host : Host :=
      { openFile := fun path =>
          if path.text.toList.all (·.toNat < 128) then
            .error (.system (.missing path.text))
          else
            .error (.unencodable reason)
        version := "1.0.0", exitCode := 0, exitEnds := false }
    let offering := offeringBuiltins 32 256
    let named : Shell := ⟨{ offering with queue := ⟨256, ["FILE файл"], by decide⟩ }, "> ", [], #[]⟩
    let stopping : Shell :=
      ⟨{ offering with queue := ⟨256, ["FILE a\x00b", "GET q"], by decide⟩, alarm := some 1 },
        "> ", [], #[]⟩
    let behind := (stopping.step host).state
    ((named.session.taken "FILE файл").parse "FILE файл").outcome =
        .ok (some ⟨Builtin.file.command, ["файл"]⟩) ∧
      '\x00' ∉ "файл".toList ∧
      (named.step host).outcome = .error (.unusableValue reason) ∧
      (stopping.step host).outcome = .error .nullInPath ∧
      behind.session.queue.lines = ["GET q"] ∧
      behind.execution? host = none ∧
      (behind.step host).state.session.queue.lines = [] := by
  decide +kernel

/-- A path that cannot be encoded leaves the loop, which then goes on behind the line. -/
theorem unencodable_path_in_variable_leaves_loop :
    let reason := "'ascii' codec can't encode characters in position 0-3: ordinal not in range(128)"
    let host : Host := ⟨fun _ => .error (.unencodable reason), "1.0.0", 0, false⟩
    let session : Session :=
      { offeringBuiltins 32 256 with
        queue := ⟨256, ["FILE p", "GET q"], by decide⟩
        store := ({} : Variables).set "p" "файл\x00" }
    let shell : Shell := ⟨session, "> ", [], #[]⟩
    let stepped := shell.step host
    stepped.outcome = .error (.unusableValue reason) ∧
      shell.LosesFirstLine stepped.state ∧
      (stepped.state.execution? host).map Execution.line = some "GET q" ∧
      (stepped.state.step host).outcome = .ok true := by
  intro reason host session shell stepped
  have evaluated :
      shell.session.poll.outcome = .ok () ∧
        ((shell.session.taken "FILE p").parse "FILE p").outcome =
          .ok (some ⟨Builtin.file.command, ["файл\x00"]⟩) ∧
        stepped.state.session.alarm ≠ some 0 ∧
        (pollAndRun stepped.state.session host).outcome = .error (.undefinedVariable "q") ∧
        session.registry.commands = Builtin.all.map Builtin.command := by
    decide +kernel
  obtain ⟨polled, parsed, notDue, undefined, listed⟩ := evaluated
  have onlyBuiltins : session.OffersOnlyBuiltins := by
    intro command member
    rw [listed] at member
    obtain ⟨builtin, _, rfl⟩ := List.mem_map.mp member
    exact ⟨builtin, rfl⟩
  have waiting : shell.session.queue.lines = "FILE p" :: ["GET q"] := rfl
  obtain ⟨_, _, _, _, escapes, loses⟩ := only_refused_path_leaves_loop waiting host
  have escaped : stepped.outcome = .error (.unusableValue reason) :=
    (escapes onlyBuiltins rfl (.unusableValue reason)).mpr
      ⟨polled, "файл\x00", parsed, .unencodable rfl⟩
  have kept := loses (.unusableValue reason) escaped
  have pending : stepped.state.session.queue.lines = "GET q" :: [] := by
    rw [kept.queue]
    rfl
  obtain ⟨leaves, ends, _⟩ := only_refused_path_leaves_loop pending host
  have next := kept.goesOn notDue host
  rw [waiting, List.tail_cons, List.head?_cons] at next
  refine ⟨escaped, kept, next, ends.resolve_left ?_⟩
  rintro ⟨fault, leaving⟩
  obtain ⟨raised, notOfCommand, _⟩ := (leaves fault).mp leaving
  obtain rfl := Except.error.inj (undefined.symm.trans raised)
  exact notOfCommand rfl

end Shell

end CommandConsole
