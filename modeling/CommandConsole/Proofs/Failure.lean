import CommandConsole.Proofs.Performance
import CommandConsole.Proofs.Queue
import CommandConsole.Proofs.Registration

namespace CommandConsole

/-!
# Failures leave no trace

A command makes its one change behind everything that can fail, and a stop
takes the pending lines and nothing else. So a run that fails leaves a session
that differs from the one before in its log and its count of polls alone, or,
where a poll stopped it, in the pending lines as well.
-/

namespace Session

/-- A later session has everything of an earlier one but its log and its count of polls. -/
structure Kept (before after : Session) : Prop where
  queue : after.queue = before.queue
  store : after.store = before.store
  registry : after.registry = before.registry
  stop : after.stop = before.stop
  exits : after.exits = before.exits

/-- A stop has been seen: nothing is pending, the flag is lowered, and all else is kept. -/
structure Stopped (before after : Session) : Prop where
  queue : after.queue = before.queue.clear
  stop : after.stop = .lowered
  store : after.store = before.store
  registry : after.registry = before.registry
  exits : after.exits = before.exits

theorem Kept.refl (session : Session) : session.Kept session :=
  ⟨rfl, rfl, rfl, rfl, rfl⟩

theorem Kept.trans
    {first second third : Session}
    (earlier : first.Kept second)
    (later : second.Kept third) :
    first.Kept third where
  queue := later.queue.trans earlier.queue
  store := later.store.trans earlier.store
  registry := later.registry.trans earlier.registry
  stop := later.stop.trans earlier.stop
  exits := later.exits.trans earlier.exits

theorem Kept.stopped
    {first second third : Session}
    (earlier : first.Kept second)
    (later : second.Stopped third) :
    first.Stopped third where
  queue := by rw [later.queue, earlier.queue]
  stop := later.stop
  store := later.store.trans earlier.store
  registry := later.registry.trans earlier.registry
  exits := later.exits.trans earlier.exits

theorem kept_record (session : Session) (event : Event) :
    session.Kept (session.record event) :=
  ⟨rfl, rfl, rfl, rfl, rfl⟩

/-- A poll finds no request and keeps the session, or it stops. -/
theorem poll_cases (session : Session) :
    (session.poll.outcome = .ok () ∧ session.Kept session.poll.state) ∨
      (session.poll.outcome = .error .stopped ∧ session.Stopped session.poll.state) := by
  obtain ⟨registry, queue, store, ⟨raised⟩, alarm, exits, log⟩ := session
  rcases alarm with _ | _ | count
  · cases raised
    · exact .inl ⟨rfl, rfl, rfl, rfl, rfl, rfl⟩
    · exact .inr ⟨rfl, rfl, rfl, rfl, rfl, rfl⟩
  · exact .inr ⟨rfl, rfl, rfl, rfl, rfl, rfl⟩
  · cases raised
    · exact .inl ⟨rfl, rfl, rfl, rfl, rfl, rfl⟩
    · exact .inr ⟨rfl, rfl, rfl, rfl, rfl, rfl⟩

/-- Acts are all played and keep the session, or a poll among them stops. -/
theorem play_cases (session : Session) (acts : List Act) :
    ((session.play acts).outcome = .ok () ∧ session.Kept (session.play acts).state) ∨
      ((session.play acts).outcome = .error .stopped ∧
        session.Stopped (session.play acts).state) := by
  induction acts generalizing session with
  | nil =>
      exact .inl ⟨rfl, .refl session⟩
  | cons act acts inductionHypothesis =>
      cases act with
      | log event =>
          have recorded := session.kept_record event
          rcases inductionHypothesis (session.record event) with
            ⟨played, kept⟩ | ⟨stopped, emptied⟩
          · exact .inl ⟨played, recorded.trans kept⟩
          · exact .inr ⟨stopped, recorded.stopped emptied⟩
      | poll =>
          rw [play]
          rcases session.poll_cases with ⟨polled, kept⟩ | ⟨polled, emptied⟩
          · rw [polled]
            rcases inductionHypothesis session.poll.state with
              ⟨played, keptLater⟩ | ⟨stopped, emptied⟩
            · exact .inl ⟨played, kept.trans keptLater⟩
            · exact .inr ⟨stopped, kept.stopped emptied⟩
          · rw [polled]
            exact .inr ⟨rfl, emptied⟩

/-- An effect that cannot be applied is that of a batch with a line that is too long. -/
theorem exists_of_apply_error
    {session : Session}
    {effect : Effect}
    {fault : Fault}
    (refused : session.apply effect = .error fault) :
    ∃ lines,
      effect = .queueAhead lines ∧ fault = Queue.tooLongFault session.queue.limit lines := by
  cases effect with
  | queueAhead lines =>
      refine ⟨lines, rfl, ?_⟩
      simp only [apply, enqueueBatch, Queue.enqueueBatch] at refused
      split at refused
      · cases refused
      · exact (Except.error.inj refused).symm
  | _ =>
      cases refused

/-- The end of a run that fails keeps the session. -/
theorem conclude_of_error
    {session : Session}
    {outcome : Except Fault Completion}
    {fault : Fault}
    (own : ∀ fault, outcome = .error fault → fault ≠ .stopped)
    (failed : (session.conclude outcome).outcome = .error fault) :
    (session.conclude outcome).state = session ∧ fault ≠ .stopped := by
  cases outcome with
  | error raised =>
      obtain rfl := Except.error.inj failed
      exact ⟨rfl, own raised rfl⟩
  | ok completion =>
      simp only [conclude] at failed ⊢
      cases applied : session.apply completion.effect with
      | ok next =>
          rw [applied] at failed
          cases failed
      | error refused =>
          rw [applied] at failed
          obtain rfl := Except.error.inj failed
          obtain ⟨lines, _, rfl⟩ := exists_of_apply_error applied
          exact ⟨rfl, by simp [Queue.tooLongFault]⟩

/-- A value that playing a script comes to is the one that the script comes to. -/
theorem outcome_of_playScript_ok
    {session : Session}
    {script : Script α}
    {value : α}
    (succeeded : (session.playScript script).outcome = .ok value) :
    script.outcome = .ok value ∧ (session.play script.acts).outcome = .ok () := by
  unfold playScript at succeeded
  dsimp only at succeeded
  cases played : (session.play script.acts).outcome with
  | error fault =>
      rw [played] at succeeded
      exact nomatch succeeded
  | ok done =>
      rw [played] at succeeded
      exact ⟨succeeded, rfl⟩

/-- A script whose first part comes to a value goes on from the session that the part leaves. -/
theorem playScript_bind_of_ok
    {session : Session}
    {script : Script α}
    {value : α}
    (succeeded : (session.playScript script).outcome = .ok value)
    (next : α → Script β) :
    session.playScript (script >>= next) =
      (session.playScript script).state.playScript (next value) := by
  obtain ⟨comes, played⟩ := outcome_of_playScript_ok succeeded
  simp only [playScript, Script.bind_of_ok comes, play_append, played]

/-- A script that fails, by itself or by a stop, fails as the first part of any other. -/
theorem playScript_bind_of_error
    {session : Session}
    {script : Script α}
    {fault : Fault}
    (failed : (session.playScript script).outcome = .error fault)
    (next : α → Script β) :
    session.playScript (script >>= next) =
      ⟨(session.playScript script).state, .error fault⟩ := by
  unfold playScript at failed ⊢
  dsimp only at failed ⊢
  cases outcome : script.outcome with
  | error raised =>
      rw [Script.bind_of_error outcome]
      cases played : (session.play script.acts).outcome with
      | ok done =>
          rw [played, outcome] at failed
          obtain rfl := Except.error.inj failed
          rfl
      | error stop =>
          rw [played] at failed
          obtain rfl := Except.error.inj failed
          rfl
  | ok value =>
      rw [Script.bind_of_ok outcome, play_append]
      cases played : (session.play script.acts).outcome with
      | ok done =>
          rw [played, outcome] at failed
          exact nomatch failed
      | error stop =>
          rw [played] at failed
          obtain rfl := Except.error.inj failed
          rfl

/--
A line is parsed before anything that it invokes is performed, so a run whose
parsing fails or is stopped is that parsing and no more.
-/
theorem run_of_parse_error
    {session : Session}
    {line : String}
    {fault : Fault}
    (host : Host)
    (failed : (session.parse line).outcome = .error fault) :
    session.run host line = ⟨(session.parse line).state, .error fault⟩ := by
  have played :
      session.playScript (session.scope.interpret host line) =
        ⟨(session.parse line).state, .error fault⟩ :=
    playScript_bind_of_error failed _
  simp only [run, played]

/-- A run comes to a reply, or fails and keeps the session, or is stopped. -/
theorem run_cases (session : Session) (host : Host) (line : String) :
    (∃ reply, (session.run host line).outcome = .ok reply) ∨
      (∃ fault, (session.run host line).outcome = .error fault ∧ fault ≠ .stopped ∧
        session.Kept (session.run host line).state) ∨
      ((session.run host line).outcome = .error .stopped ∧
        session.Stopped (session.run host line).state) := by
  rcases session.play_cases (session.scope.interpret host line).acts with
    ⟨played, kept⟩ | ⟨stopped, emptied⟩
  · have playing :
        session.play (session.scope.interpret host line).acts =
          ⟨(session.play (session.scope.interpret host line).acts).state, .ok ()⟩ := by
      rw [← played]
    rw [run_of_played playing]
    cases concluded :
        ((session.play (session.scope.interpret host line).acts).state.conclude
          (session.scope.interpret host line).outcome).outcome with
    | ok reply =>
        exact .inl ⟨reply, rfl⟩
    | error fault =>
        obtain ⟨same, own⟩ :=
          conclude_of_error (fun _ => Scope.interpret_ne_stopped) concluded
        rw [same]
        exact .inr (.inl ⟨fault, rfl, own, kept⟩)
  · have playing :
        session.play (session.scope.interpret host line).acts =
          ⟨(session.play (session.scope.interpret host line).acts).state, .error .stopped⟩ := by
      rw [← stopped]
    rw [run_of_stopped playing]
    exact .inr (.inr ⟨rfl, emptied⟩)

end Session

end CommandConsole
