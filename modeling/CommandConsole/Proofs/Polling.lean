import CommandConsole.Proofs.Cancellation
import CommandConsole.Proofs.Interruption
import CommandConsole.Proofs.QuoteSpans

namespace CommandConsole

open Grammar

/-!
# How often a run polls

A run polls once for each token that a quote span takes, and once for each
thing that its command goes through one by one. So a stop that is requested
before the run is seen if there is any such unit, and stays requested if not.
-/

/-- The lines that are read of the file which an argument names, up to an obstacle in it. -/
def Host.linesRead (host : Host) (argument : String) : List String :=
  match host.read (.ofText argument) with
  | .ok readout =>
      (FileSystem.Content.ofReadout readout).lines
  | .error _ =>
      []

/-- How many things a built-in command goes through one by one. -/
def Builtin.units
    (command : Builtin)
    (scope : Scope)
    (host : Host)
    (argument : String) :
    Nat :=
  match command with
  | .help =>
      if argument = "" then scope.registry.size else 0
  | .listVariables =>
      scope.store.size
  | .file =>
      (host.linesRead argument).length
  | .version
  | .set
  | .get
  | .exit =>
      0

/-- How often an invocation polls: once for each of its units, or by itself if a host added it. -/
def Invocation.units (invocation : Invocation) (scope : Scope) (host : Host) : Nat :=
  match invocation.command.action with
  | .builtin command =>
      command.units scope host (invocation.arguments.getD 0 "")
  | .extension .check =>
      1
  | .extension _ =>
      0

/-- The units of the invocation in a line, none if there is no such invocation. -/
def Scope.unitsPerformed (scope : Scope) (host : Host) (line : String) : Nat :=
  match (Invocation.ofLine? scope.registry scope.store line).outcome with
  | .ok (some invocation) =>
      invocation.units scope host
  | _ =>
      0

/-- The units of a line: the tokens in its quote spans and what its invocation goes through. -/
def Scope.units (scope : Scope) (host : Host) (line : String) : Nat :=
  tokenCount (quoteSpans scope.registry scope.store line) + scope.unitsPerformed host line

theorem Script.pollCount_polled_and_logged (shown : α → Event) (elements : List α) :
    (perform (elements.flatMap fun element => [.poll, .log (shown element)])).pollCount =
      elements.length := by
  induction elements with
  | nil =>
      rfl
  | cons element elements inductionHypothesis =>
      simp only [perform, pollCount] at inductionHypothesis ⊢
      simp [inductionHypothesis]

theorem Builtin.pollCount_performFile (host : Host) (argument : String) :
    (performFile host argument).pollCount = (host.linesRead argument).length := by
  simp only [performFile, Host.linesRead]
  cases read : host.read (FileSystem.Path.ofText argument) with
  | error fault =>
      exact Script.pollCount_bind_of_error rfl
  | ok readout =>
      have reads := Script.pollCount_polled_and_logged Event.lineRead
        (FileSystem.Content.ofReadout readout).lines
      rw [Script.pollCount_bind_of_ok rfl, Script.pollCount_bind_of_silent fun _ => rfl, reads]
      exact Nat.zero_add _

/-- A built-in command polls once for each thing that it goes through. -/
theorem Builtin.pollCount_perform
    (command : Builtin)
    (scope : Scope)
    (host : Host)
    (arguments : List String) :
    (command.perform scope host arguments).pollCount =
      command.units scope host (arguments.getD 0 "") := by
  cases command with
  | help =>
      simp only [perform, performHelp, units]
      split
      · rw [Script.pollCount_bind_of_silent fun _ => rfl, Script.pollCount_polled_and_logged]
        rfl
      · exact Script.pollCount_bind_of_silent fun _ => rfl
  | listVariables =>
      simp only [perform, performVariables, units]
      rw [Script.pollCount_bind_of_silent fun _ => rfl, Script.pollCount_polled_and_logged]
      rfl
  | file =>
      exact pollCount_performFile host _
  | get =>
      exact Script.pollCount_bind_of_silent fun _ => rfl
  | exit =>
      refine Script.pollCount_bind_of_silent fun _ => ?_
      split <;> rfl
  | version
  | set =>
      rfl

theorem Invocation.pollCount_perform
    (invocation : Invocation)
    (scope : Scope)
    (host : Host) :
    (invocation.perform scope host).pollCount = invocation.units scope host := by
  cases action : invocation.command.action with
  | builtin command =>
      simp only [perform, units, action]
      exact command.pollCount_perform scope host invocation.arguments
  | extension extension =>
      simp only [perform, units, action]
      cases extension with
      | reject =>
          simp only [Extension.perform]
          split <;> rfl
      | _ =>
          rfl

/-- A line polls once for each of its units. -/
theorem Scope.pollCount_interpret
    (scope : Scope)
    (host : Host)
    (line : String) :
    (scope.interpret host line).pollCount = scope.units host line := by
  have parsed := pollCount_ofLine? scope.registry scope.store line
  rw [interpret, units, unitsPerformed, ← parsed]
  cases found : (Invocation.ofLine? scope.registry scope.store line).outcome with
  | error fault =>
      exact Script.pollCount_bind_of_error found
  | ok result =>
      rw [Script.pollCount_bind_of_ok found]
      cases result with
      | none =>
          rfl
      | some invocation =>
          exact congrArg _ (invocation.pollCount_perform scope host)

namespace Session

variable {session : Session}

/-- Acts without a poll are played to their end, whether or not a stop is requested. -/
theorem play_of_silent
    {acts : List Act}
    (session : Session)
    (silent : acts.count .poll = 0) :
    session.play acts = ⟨session.afterActs acts, .ok ()⟩ := by
  induction acts generalizing session with
  | nil =>
      simp [play, afterActs]
  | cons act acts inductionHypothesis =>
      cases act with
      | poll =>
          rw [List.count_cons_self] at silent
          exact (Nat.succ_ne_zero _ silent).elim
      | log event =>
          have silentLater : acts.count .poll = 0 := by
            simpa using silent
          rw [play, inductionHypothesis _ silentLater]
          simp [afterActs, record]

/-- With the flag raised, acts that hold a poll are cut short at their first one. -/
theorem exists_play_of_raised
    {acts : List Act}
    (raised : session.stop = .raised)
    (polls : 0 < acts.count .poll) :
    ∃ stopped, session.play acts = ⟨stopped, .error .stopped⟩ := by
  obtain ⟨earlier, later, rfl, silent⟩ := exists_poll_after polls
  have stillRaised : (session.afterActs earlier).stop = .raised :=
    raised
  rw [play_append, play_of_silent session silent]
  simp only [play, poll_of_raised stillRaised]
  exact ⟨_, rfl⟩

/-- An effect does not depend on the flag, which stays raised. -/
theorem apply_requestStop (session : Session) (effect : Effect) :
    session.requestStop.apply effect = (session.apply effect).map requestStop := by
  cases effect with
  | queueAhead lines =>
      simp only [apply, enqueueBatch, requestStop]
      cases session.queue.enqueueBatch lines <;> rfl
  | _ =>
      rfl

/--
Every unit of a line is polled for exactly once. A run with the flag lowered
uses up as many polls of an alarm as the line has units, and is stopped by an
alarm with fewer. With the flag raised before the run, it is stopped if the
line has any unit; if not, it is the run with the flag lowered, and the flag
stays raised.
-/
theorem every_unit_is_polled_for_once
    (lowered : session.stop = .lowered)
    (host : Host)
    (line : String) :
    let units := session.scope.units host line
    let undisturbed := (session.withAlarm none).run host line
    (session.scope.interpret host line).pollCount = units ∧
      (∀ polls, units ≤ polls →
        (session.withAlarm (some polls)).run host line =
          ⟨undisturbed.state.withAlarm (some (polls - units)), undisturbed.outcome⟩) ∧
      (∀ polls < units,
        ((session.withAlarm (some polls)).run host line).outcome = .error .stopped) ∧
      ((session.requestStop.run host line).outcome = .error .stopped ↔ 0 < units) ∧
      (units = 0 →
        session.requestStop.run host line =
          ⟨(session.run host line).state.requestStop, (session.run host line).outcome⟩) := by
  intro units undisturbed
  have counted : (session.scope.interpret host line).pollCount = units :=
    session.scope.pollCount_interpret host line
  have stops (anyUnit : 0 < units) :
      (session.requestStop.run host line).outcome = .error .stopped := by
    have raised : session.requestStop.stop = .raised := rfl
    obtain ⟨stopped, played⟩ := exists_play_of_raised raised (counted ▸ anyUnit)
    rw [run_of_stopped played]
  have played (noUnit : units = 0) (session : Session) :=
    session.play_of_silent (counted.trans noUnit)
  have goesOn (noUnit : units = 0) :
      session.requestStop.run host line =
        ⟨(session.run host line).state.requestStop, (session.run host line).outcome⟩ := by
    rw [run_of_played (played noUnit session),
      run_of_played (played noUnit session.requestStop)]
    exact conclude_of_commutes apply_requestStop
      (session.afterActs (session.scope.interpret host line).acts)
      (session.scope.interpret host line).outcome
  refine ⟨counted, ?_, ?_, ⟨?_, stops⟩, goesOn⟩
  · intro polls enough
    rw [← counted] at enough ⊢
    exact run_withAlarm_of_not_reached lowered enough
  · intro polls tooFew
    rw [← counted] at tooFew
    obtain ⟨earlier, later, shape, rfl⟩ := exists_poll_after tooFew
    rw [run_withAlarm_of_reached lowered shape]
  · intro stopped
    refine Nat.pos_of_ne_zero fun noUnit => ?_
    rw [goesOn noUnit, run_of_played (played noUnit session)] at stopped
    exact (conclude_of_error (fun _ => Scope.interpret_ne_stopped) stopped).2 rfl

/--
The span of a line that is refused is polled for, and so is each line of a
command file; showing a variable is never stopped.
-/
theorem polls_of_refused_span_and_file :
    let host : Host :=
      { openFile := fun path =>
          if path.text = "f" then
            .ok { bytes := [71, 10, 10] }
          else
            .error (.system (.missing path.text))
        version := "1.0.0"
        exitCode := 0
        exitEnds := true }
    let session : Session :=
      { offeringBuiltins 32 256 with
        store := ({} : Variables).set "open" "\"a" }
    let refused := "SET x open b\" c"
    (session.run host refused).outcome = .error (.unexpectedParameter "SET" "c") ∧
      (session.scope.interpret host refused).pollCount = 2 ∧
      (session.requestStop.run host refused).outcome = .error .stopped ∧
      ((session.withAlarm (some 1)).run host "FILE f").outcome = .error .stopped ∧
      session.requestStop.run host "GET open" =
        ⟨(session.run host "GET open").state.requestStop, .ok (.valueShown "open" "\"a")⟩ := by
  intro host session refused
  have evaluated :
      (session.run host refused).outcome = .error (.unexpectedParameter "SET" "c") ∧
        session.scope.units host refused = 2 ∧
        1 < session.scope.units host "FILE f" ∧
        session.scope.units host "GET open" = 0 ∧
        (session.run host "GET open").outcome = .ok (.valueShown "open" "\"a") ∧
        session.stop = .lowered := by
    decide +kernel
  obtain ⟨failed, two, fileUnit, noUnit, shown, lowered⟩ := evaluated
  obtain ⟨counted, _, _, stops, _⟩ := every_unit_is_polled_for_once lowered host refused
  obtain ⟨_, _, early, _, _⟩ := every_unit_is_polled_for_once lowered host "FILE f"
  obtain ⟨_, _, _, _, goesOn⟩ := every_unit_is_polled_for_once lowered host "GET open"
  refine ⟨failed, counted.trans two, stops.mpr (by rw [two]; decide), early 1 fileUnit, ?_⟩
  rw [goesOn noUnit, shown]

end Session

end CommandConsole
