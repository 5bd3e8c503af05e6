import CommandConsole.Event

namespace CommandConsole

/-!
# Scripts

What a command does while it runs, apart from its effect: it polls for a stop
request and logs events, in some order, and comes to an outcome. A script is a
value, so the polls of a command can be counted and a run that is stopped at
one of them is a prefix of the run that is not.
-/

/-- One thing that a running command does before it comes to its outcome. -/
inductive Act where
  /-- See whether a stop is requested. -/
  | poll
  /-- Log an event. -/
  | log (event : Event)
  deriving Repr, DecidableEq

/-- The acts of a computation in order, and the outcome that it comes to if no poll stops it. -/
structure Script (α : Type) where
  acts : List Act
  outcome : Except Fault α

namespace Script

/-- Come to a value without acting. -/
protected def pure (value : α) : Script α where
  acts :=
    []
  outcome :=
    .ok value

/-- Fail without acting. -/
def fail (fault : Fault) : Script α where
  acts :=
    []
  outcome :=
    .error fault

/-- Act without coming to a value of interest. -/
def perform (acts : List Act) : Script Unit where
  acts :=
    acts
  outcome :=
    .ok ()

/-- Log one event. -/
def log (event : Event) : Script Unit :=
  perform [.log event]

/-- Poll a number of times. -/
def polls (count : Nat) : Script Unit :=
  perform (List.replicate count .poll)

/-- Take over the outcome of a computation that does not act. -/
def ofExcept (outcome : Except Fault α) : Script α where
  acts :=
    []
  outcome :=
    outcome

/-- Go on with the value of a script; a fault ends the whole. -/
protected def bind (script : Script α) (next : α → Script β) : Script β :=
  match script.outcome with
  | .ok value =>
      let following := next value
      ⟨script.acts ++ following.acts, following.outcome⟩
  | .error fault =>
      ⟨script.acts, .error fault⟩

instance : Monad Script where
  pure :=
    Script.pure
  bind :=
    Script.bind

/-- A script that comes to a value goes on with the acts of what follows it. -/
theorem bind_of_ok
    {script : Script α}
    {next : α → Script β}
    {value : α}
    (succeeds : script.outcome = .ok value) :
    script >>= next = ⟨script.acts ++ (next value).acts, (next value).outcome⟩ := by
  show Script.bind script next = _
  simp [Script.bind, succeeds]

/-- A script that fails ends the whole. -/
theorem bind_of_error
    {script : Script α}
    {next : α → Script β}
    {fault : Fault}
    (fails : script.outcome = .error fault) :
    script >>= next = ⟨script.acts, .error fault⟩ := by
  show Script.bind script next = _
  simp [Script.bind, fails]

instance : LawfulMonad Script :=
  LawfulMonad.mk' Script
    (by
      rintro α ⟨acts, _ | value⟩
      · simp [Functor.map, Script.bind]
      · simp [Functor.map, Script.bind, Script.pure])
    (by
      intro α β value next
      simp [Bind.bind, Script.bind, Pure.pure, Script.pure])
    (by
      rintro α β γ ⟨acts, _ | value⟩ next last
      · simp [Bind.bind, Script.bind]
      · simp only [Bind.bind, Script.bind]
        split
        · simp_all
        · simp_all)

/-- The number of polls in a script that runs to its end. -/
def pollCount (script : Script α) : Nat :=
  script.acts.count .poll

end Script

end CommandConsole
