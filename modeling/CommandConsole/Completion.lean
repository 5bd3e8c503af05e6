import CommandConsole.Reply

namespace CommandConsole

/-!
# Completions

What a command that has come to its end leaves behind: one change of its
session and one reply. A command makes no other change, so one that fails or is
stopped on its way has changed nothing.
-/

/-- The one change that a command makes. -/
inductive Effect where
  | none
  | assign (key value : String)
  | queueAhead (lines : List String)
  | requestStop
  | recordExit (code : Int)
  deriving Repr, DecidableEq

/-- What a command comes to: the change it makes and its reply. -/
structure Completion where
  effect : Effect
  reply : Reply
  deriving Repr, DecidableEq

end CommandConsole
