import CommandConsole.Log.Record
import CommandConsole.Log.Template

namespace CommandConsole.Log

/-!
# Requests to log

Messages that reach the log from outside a session: as templates with a level
by its number, or as texts with a level by its name and the name of the part
that logs. The first request that fails ends the log.
-/

/-- A request to log a message. -/
inductive Request where
  /-- A message template for the general logger, with a level by its number. -/
  | general (number : Int) (template : String) (values : List Value)
  /-- A message with a level by its name, in the name of a part of the program. -/
  | named (label part message : String)
  deriving Repr

/-- Why a log cannot be written. -/
inductive LogFault where
  | unknownLevel (label : String)
  | template (fault : TemplateFault)
  deriving Repr, DecidableEq

/-- The wording of a fault. -/
def LogFault.message : LogFault → String
  | .unknownLevel label =>
      "Level '" ++ label ++ "' does not exist"
  | .template fault =>
      fault.message

/-- The level of a name that must exist. -/
def levelOfLabel (label : String) : Except LogFault Level :=
  match Level.ofLabel? label with
  | some level =>
      .ok level
  | none =>
      .error (.unknownLevel label)

/-- The record of a request, none where the general logger drops it. -/
def Request.record? : Request → Except LogFault (Option Record)
  | .general number template values =>
      if number ≤ 0 then
        .ok none
      else do
        let message ← (fill template values).mapError .template
        let number := number.toNat
        return some ⟨Record.labelOfNumber number, number, Record.defaultPart, message⟩
  | .named label part message => do
      let level ← levelOfLabel label
      return some ⟨level.label, level.number, part, message⟩

/-- The records of requests up to the first that fails, with its fault. -/
def recordsOf : List Request → List Record × Option LogFault
  | [] =>
      ([], none)
  | request :: requests =>
      match request.record? with
      | .error fault =>
          ([], some fault)
      | .ok record? =>
          let (records, fault) := recordsOf requests
          (record?.toList ++ records, fault)

/-- What a log with a least level given by name shows of requests, and the fault that ended it. -/
def write (leastLabel : String) (requests : List Request) : String × Option LogFault :=
  match levelOfLabel leastLabel with
  | .error fault =>
      ("", some fault)
  | .ok least =>
      let (records, fault) := recordsOf requests
      (shown least records, fault)

end CommandConsole.Log
