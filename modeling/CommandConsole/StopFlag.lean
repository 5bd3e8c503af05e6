namespace CommandConsole

/-!
# Stop requests

A request to stop stays raised until it is lowered or consumed by a poll.
-/

/-- Whether a stop is requested. -/
structure StopFlag where
  isRaised : Bool := false
  deriving Repr, DecidableEq

namespace StopFlag

/-- Request a stop. -/
def raised : StopFlag :=
  ⟨true⟩

/-- Request nothing. -/
def lowered : StopFlag :=
  ⟨false⟩

/-- Read the request and lower the flag. -/
def consume (flag : StopFlag) : Bool × StopFlag :=
  (flag.isRaised, lowered)

end StopFlag

end CommandConsole
