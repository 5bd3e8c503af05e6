namespace CommandConsole.Log

/-!
# Levels

The named levels of log records and their numbers. A record is written when
its number reaches the number of the least level that is shown.
-/

/-- The named levels, from the least to the gravest. -/
inductive Level where
  | trace
  | debug
  | info
  | success
  | warning
  | error
  | critical
  deriving Repr, DecidableEq

namespace Level

/-- Every named level. -/
def all : List Level :=
  [.trace, .debug, .info, .success, .warning, .error, .critical]

/-- The number of a level. -/
def number : Level → Nat
  | .trace =>
      5
  | .debug =>
      10
  | .info =>
      20
  | .success =>
      25
  | .warning =>
      30
  | .error =>
      40
  | .critical =>
      50

/-- The name of a level. -/
def label : Level → String
  | .trace =>
      "TRACE"
  | .debug =>
      "DEBUG"
  | .info =>
      "INFO"
  | .success =>
      "SUCCESS"
  | .warning =>
      "WARNING"
  | .error =>
      "ERROR"
  | .critical =>
      "CRITICAL"

/-- The level of a name; letter case counts. -/
def ofLabel? (label : String) : Option Level :=
  all.find? fun level => level.label = label

/-- Every level is found by its own name. -/
theorem ofLabel?_label (level : Level) : ofLabel? level.label = some level := by
  cases level <;> rfl

end Level

end CommandConsole.Log
