import CommandConsole.Fault

namespace CommandConsole

/-!
# Attempts

An operation that may fail and that leaves a state behind even if it does.
-/

/-- The state after an operation and what the operation came to. -/
structure Attempt (State α : Type) where
  state : State
  outcome : Except Fault α

end CommandConsole
