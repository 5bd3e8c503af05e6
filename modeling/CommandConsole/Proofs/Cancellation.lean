import CommandConsole.Proofs.Playback
import CommandConsole.Proofs.Registration

namespace CommandConsole.Session

/-!
# A run that is stopped is a prefix of the run that is not

The effect of a command is applied behind its last poll, and no act but a poll
looks at the stop flag. So a stop at any poll leaves what the acts before that
poll have logged and nothing else of the run.
-/

/-- Effects do not depend on the alarm and leave it as it is. -/
theorem apply_withAlarm
    (session : Session)
    (alarm : Option Nat)
    (effect : Effect) :
    (session.withAlarm alarm).apply effect =
      (session.apply effect).map fun session => session.withAlarm alarm := by
  cases effect with
  | queueAhead lines =>
      simp only [apply, enqueueBatch, withAlarm]
      cases session.queue.enqueueBatch lines <;> rfl
  | _ =>
      rfl

/-- A change that effects do not depend on can be made before the end of a run or behind it. -/
theorem conclude_of_commutes
    {change : Session → Session}
    (commutes : ∀ session effect,
      (change session).apply effect = (session.apply effect).map change)
    (session : Session)
    (outcome : Except Fault Completion) :
    (change session).conclude outcome =
      ⟨change (session.conclude outcome).state, (session.conclude outcome).outcome⟩ := by
  cases outcome with
  | error fault =>
      rfl
  | ok completion =>
      simp only [conclude, commutes]
      cases session.apply completion.effect <;> rfl

/-- The end of a run does not depend on the alarm and leaves it as it is. -/
theorem conclude_withAlarm
    (session : Session)
    (alarm : Option Nat)
    (outcome : Except Fault Completion) :
    (session.withAlarm alarm).conclude outcome =
      ⟨(session.conclude outcome).state.withAlarm alarm,
        (session.conclude outcome).outcome⟩ :=
  conclude_of_commutes (fun session effect => session.apply_withAlarm alarm effect) session outcome

/-- A run with an alarm that it does not reach is the run without one. -/
theorem run_withAlarm_of_not_reached
    {session : Session}
    {host : Host}
    {line : String}
    {polls : Nat}
    (lowered : session.stop = .lowered)
    (enough : (session.scope.interpret host line).pollCount ≤ polls) :
    (session.withAlarm (some polls)).run host line =
      ⟨((session.withAlarm none).run host line).state.withAlarm
          (some (polls - (session.scope.interpret host line).pollCount)),
        ((session.withAlarm none).run host line).outcome⟩ := by
  have sameScope (alarm : Option Nat) : (session.withAlarm alarm).scope = session.scope :=
    rfl
  have armed : (session.withAlarm (some polls)).Undisturbed
      (session.scope.interpret host line).pollCount := by
    refine ⟨lowered, ?_⟩
    intro count alarm
    obtain rfl := Option.some.inj alarm
    exact enough
  have unarmed : (session.withAlarm none).Undisturbed
      (session.scope.interpret host line).pollCount :=
    undisturbed_withAlarm_none lowered _
  have counted :
      (session.withAlarm (some polls)).afterActs (session.scope.interpret host line).acts =
        ((session.withAlarm none).afterActs (session.scope.interpret host line).acts).withAlarm
          (some (polls - (session.scope.interpret host line).pollCount)) :=
    rfl
  rw [run_of_undisturbed armed, run_of_undisturbed unarmed]
  simp only [sameScope, counted, conclude_withAlarm]

/-- A run with an alarm that it reaches is cut short at the poll that the alarm waits for. -/
theorem run_withAlarm_of_reached
    {session : Session}
    {host : Host}
    {line : String}
    {earlier later : List Act}
    (lowered : session.stop = .lowered)
    (shape : (session.scope.interpret host line).acts = earlier ++ .poll :: later) :
    (session.withAlarm (some (earlier.count .poll))).run host line =
      ⟨session.cutShort (Act.events earlier), .error .stopped⟩ := by
  have cut := play_withAlarm lowered earlier later
  rw [← shape] at cut
  exact run_of_stopped cut

end CommandConsole.Session
