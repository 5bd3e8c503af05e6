import CommandConsole.Proofs.Assignment
import CommandConsole.Proofs.Registration
import CommandConsole.Shell
import Mathlib.Logic.Relation

namespace CommandConsole

/-!
# The sessions that can come about

A session moves on when a line is run or queued, when a command is registered,
and when its stop flag or its log change. The read loop moves its session by
such steps alone, so what every step preserves holds for all that the program
can come to.
-/

namespace Session

/-- One thing that can happen to a session. -/
inductive Step : Session → Session → Prop where
  /-- A line is run, to whatever outcome. -/
  | ran (session : Session) (host : Host) (line : String) :
      Step session (session.run host line).state
  /-- The first pending line is taken off the queue. -/
  | taken
      {session : Session}
      {line : String}
      {queue : Queue}
      (popped : session.queue.pop = .ok (line, queue)) :
      Step session ({ session with queue := queue }.record (.running line))
  | enqueued
      {session next : Session}
      {line : String}
      (accepted : session.enqueue line = .ok next) :
      Step session next
  | batchEnqueued
      {session next : Session}
      {lines : List String}
      (accepted : session.enqueueBatch lines = .ok next) :
      Step session next
  | cleared (session : Session) :
      Step session session.clear
  /-- A command is registered; it may be any, not only a built-in one. -/
  | registered
      {session next : Session}
      {command : Command}
      (accepted : session.register command = .ok next) :
      Step session next
  | polled (session : Session) :
      Step session session.poll.state
  | stopRequested (session : Session) :
      Step session session.requestStop
  | stopDismissed (session : Session) :
      Step session session.dismissStop
  | alarmSet (session : Session) (polls : Nat) :
      Step session (session.setAlarm polls)
  | recorded (session : Session) (event : Event) :
      Step session (session.record event)

/-- A session comes about from another one by steps. -/
def Reachable : Session → Session → Prop :=
  Relation.ReflTransGen Step

/-- A line that is queued changes nothing that commands can see. -/
theorem scope_of_enqueue
    {session next : Session}
    {line : String}
    (accepted : session.enqueue line = .ok next) :
    next.scope = session.scope := by
  unfold enqueue at accepted
  cases queued : session.queue.enqueue line with
  | error fault =>
      rw [queued] at accepted
      exact nomatch accepted
  | ok queue =>
      rw [queued] at accepted
      obtain rfl := Except.ok.inj accepted
      rfl

/--
A step makes one of three changes to what commands can see: none, a command
that is registered behind the others, or what a run does to the store.
-/
theorem Step.scope_cases
    {session next : Session}
    (step : Step session next) :
    next.scope = session.scope ∨
      (∃ command,
        next.registry.commands = session.registry.commands ++ [command] ∧
          next.store = session.store) ∨
      ∃ host line,
        next = (session.run host line).state := by
  cases step with
  | ran host line =>
      exact .inr (.inr ⟨host, line, rfl⟩)
  | registered accepted =>
      exact .inr (.inl ⟨_, scope_of_register accepted⟩)
  | enqueued accepted =>
      exact .inl (scope_of_enqueue accepted)
  | batchEnqueued accepted =>
      obtain ⟨queue, _, rfl⟩ := exists_of_enqueueBatch accepted
      exact .inl rfl
  | polled =>
      exact .inl session.scope_poll
  | taken popped
  | cleared
  | stopRequested
  | stopDismissed
  | alarmSet polls
  | recorded event =>
      exact .inl rfl

/-- A step keeps all names and values enclosable. -/
theorem Step.enclosable
    {session next : Session}
    (step : Step session next)
    (enclosable : session.store.Enclosable) :
    next.store.Enclosable := by
  rcases step.scope_cases with sameScope | ⟨_, _, sameStore⟩ | ⟨host, line, rfl⟩
  · rw [(Scope.mk.inj sameScope).2]
    exact enclosable
  · rw [sameStore]
    exact enclosable
  · exact enclosable_run enclosable host line

/-- A step keeps all commands that are registered. -/
theorem Step.commands_subset
    {session next : Session}
    (step : Step session next) :
    session.registry.commands ⊆ next.registry.commands := by
  rcases step.scope_cases with sameScope | ⟨command, behind, _⟩ | ⟨host, line, rfl⟩
  · rw [(Scope.mk.inj sameScope).1]
    exact List.Subset.refl _
  · rw [behind]
    exact List.subset_append_left _ _
  · rw [(session.scope_run host line).1]
    exact List.Subset.refl _

/-- What every step preserves holds of all sessions that come about. -/
theorem Reachable.invariant
    {start session : Session}
    {holds : Session → Prop}
    (reachable : Reachable start session)
    (preserved : ∀ {session next}, Step session next → holds session → holds next)
    (holdsAtStart : holds start) :
    holds session := by
  induction reachable with
  | refl =>
      exact holdsAtStart
  | tail _ step inductionHypothesis =>
      exact preserved step inductionHypothesis

/-- Names and values that are enclosable at the start stay so. -/
theorem Reachable.enclosable
    {start session : Session}
    (reachable : Reachable start session)
    (enclosable : start.store.Enclosable) :
    session.store.Enclosable :=
  reachable.invariant (fun step => step.enclosable) enclosable

/-- Commands that are registered at the start stay so. -/
theorem Reachable.commands_subset
    {start session : Session}
    (reachable : Reachable start session) :
    start.registry.commands ⊆ session.registry.commands :=
  reachable.invariant
    (fun step subset => List.Subset.trans subset step.commands_subset)
    (List.Subset.refl _)

theorem reachable_runNext (session : Session) (host : Host) :
    Reachable session (session.runNext host).state := by
  unfold runNext
  split
  · exact .refl
  · next popped =>
      exact .tail (.single (.taken popped)) (.ran _ host _)

end Session

namespace Shell

open Session

/-- A typed line that is accepted or dropped moves the session by steps. -/
theorem reachable_accept (session : Session) (line : TypedLine) :
    Reachable session (accept session line) := by
  have typed :
      Reachable session (if line.interrupts then session.requestStop else session) := by
    split
    · exact .single (.stopRequested session)
    · exact .refl
  have dismissed := Relation.ReflTransGen.tail typed (.stopDismissed _)
  unfold accept
  dsimp only
  split
  · next accepted =>
      exact .tail dismissed (.enqueued accepted)
  · exact .tail dismissed (.recorded _ _)

theorem reachable_pollAndRun (session : Session) (host : Host) :
    Reachable session (pollAndRun session host).state := by
  have polled : Reachable session session.poll.state :=
    .single (.polled session)
  unfold pollAndRun
  dsimp only
  split
  · exact Relation.ReflTransGen.trans polled (reachable_runNext _ host)
  · exact polled

/-- A turn of the read loop moves the session by steps. -/
theorem reachable_step (shell : Shell) (host : Host) :
    Reachable shell.session (shell.step host).state.session := by
  have ran := reachable_pollAndRun shell.session host
  unfold step readLine runPending
  dsimp only
  split
  · split
    · exact .refl
    · exact reachable_accept _ _
  · split
    · exact ran
    · split
      · exact .tail ran (.recorded _ _)
      · exact ran

/-- Turns of the read loop move its session by steps, however the loop ends. -/
theorem reachable_turn (host : Host) (turns : Nat) (shell : Shell) :
    Reachable shell.session (turn host turns shell).1.session := by
  induction turns generalizing shell with
  | zero =>
      exact .refl
  | succ turns inductionHypothesis =>
      have stepped := shell.reachable_step host
      unfold turn
      dsimp only
      split
      · exact Relation.ReflTransGen.trans stepped (inductionHypothesis _)
      · exact .tail stepped (.recorded _ _)
      · exact stepped

/-- The read loop moves its session by steps alone. -/
theorem reachable_run (shell : Shell) (host : Host) (turns : Nat) :
    Reachable shell.session (shell.run host turns).1.session := by
  have turned := reachable_turn host turns (shell.record .ready)
  exact .head (.recorded shell.session .ready) turned

end Shell

end CommandConsole
