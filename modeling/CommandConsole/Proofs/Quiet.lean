import CommandConsole.Proofs.Failure

namespace CommandConsole

/-!
# Sessions in which no stop is requested

From within a session only a command that requests a stop raises the flag. So a
session that offers no such command, with its flag lowered and no alarm set,
stays so, and every poll in it finds no request.
-/

namespace Session

/-- No stop is requested, and no command of the session can request one. -/
structure Quiet (session : Session) : Prop where
  lowered : session.stop = .lowered
  noAlarm : session.alarm = none
  noStops : ∀ command ∈ session.registry.commands, command.action ≠ .extension .stop

namespace Quiet

variable {session : Session}

theorem undisturbed (quiet : session.Quiet) (polls : Nat) : session.Undisturbed polls :=
  undisturbed_of_no_alarm quiet.lowered quiet.noAlarm polls

theorem record (quiet : session.Quiet) (event : Event) : (session.record event).Quiet :=
  ⟨quiet.lowered, quiet.noAlarm, quiet.noStops⟩

theorem afterActs (quiet : session.Quiet) (acts : List Act) : (session.afterActs acts).Quiet :=
  ⟨quiet.lowered, by rw [Session.afterActs, quiet.noAlarm]; rfl, quiet.noStops⟩

theorem requests_no_stop
    (quiet : session.Quiet)
    (host : Host)
    (line : String) :
    ∀ completion, (session.scope.interpret host line).outcome = .ok completion →
      completion.effect ≠ .requestStop := by
  intro completion comes requests
  rcases (session.scope.within_interpret host line).yielded completion comes with
    none | ⟨command, named, affects⟩
  · rw [none] at requests
    exact nomatch requests
  · exact quiet.noStops command (Registry.mem_of_named? named) (affects.1 requests)

theorem conclude
    (quiet : session.Quiet)
    {outcome : Except Fault Completion}
    (requestsNone : ∀ completion, outcome = .ok completion → completion.effect ≠ .requestStop) :
    (session.conclude outcome).state.Quiet := by
  cases outcome with
  | error fault =>
      exact quiet
  | ok completion =>
      simp only [Session.conclude]
      cases applied : session.apply completion.effect with
      | error fault =>
          exact quiet
      | ok next =>
          have harmless := requestsNone completion rfl
          cases effect : completion.effect with
          | requestStop =>
              exact absurd effect harmless
          | queueAhead lines =>
              rw [effect] at applied
              obtain ⟨queue, _, rfl⟩ := exists_of_enqueueBatch applied
              exact ⟨quiet.lowered, quiet.noAlarm, quiet.noStops⟩
          | _ =>
              rw [effect] at applied
              obtain rfl := Except.ok.inj applied
              exact ⟨quiet.lowered, quiet.noAlarm, quiet.noStops⟩

/-- A run is not stopped and raises no request. -/
theorem run
    (quiet : session.Quiet)
    (host : Host)
    (line : String) :
    (session.run host line).state.Quiet ∧
      (session.run host line).outcome ≠ .error .stopped := by
  rw [run_of_undisturbed (quiet.undisturbed _)]
  refine ⟨(quiet.afterActs _).conclude (quiet.requests_no_stop host line), ?_⟩
  intro stopped
  exact (conclude_of_error (fun _ => Scope.interpret_ne_stopped) stopped).2 rfl

theorem runNext
    (quiet : session.Quiet)
    (host : Host) :
    (session.runNext host).state.Quiet ∧
      (session.runNext host).outcome ≠ .error .stopped := by
  unfold Session.runNext
  split
  · next fault popped =>
      obtain rfl := Queue.eq_queueEmpty_of_pop popped
      exact ⟨quiet, by simp⟩
  · next popped =>
      have taken : ∀ queue, ({ session with queue := queue }).Quiet := fun queue =>
        ⟨quiet.lowered, quiet.noAlarm, quiet.noStops⟩
      exact ((taken _).record _).run host _

theorem pollAndRun
    (quiet : session.Quiet)
    (host : Host) :
    (Shell.pollAndRun session host).state.Quiet ∧
      (Shell.pollAndRun session host).outcome ≠ .error .stopped := by
  rw [Shell.pollAndRun, poll_of_undisturbed (quiet.undisturbed 1)]
  exact (quiet.afterActs _).runNext host

end Quiet

end Session

end CommandConsole
