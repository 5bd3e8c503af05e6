import CommandConsole.Event

namespace CommandConsole.Log

/-!
# Log records

A record has a level, which is a name and a number, the name of the part of the
program that logs it, and a message. A log shows the records whose number
reaches a least number, one after another: the level and the part are filled up
to their columns and never cut, and the message stands as it is.
-/

/-- One record. -/
structure Record where
  label : String
  number : Nat
  part : String
  message : String
  deriving Repr, DecidableEq

namespace Record

/-- The part of the program that logs what names no other. -/
def defaultPart : String :=
  Source.shell.label

/-- The record of an event. -/
def ofEvent (event : Event) : Record where
  label :=
    event.level.label
  number :=
    event.level.number
  part :=
    event.source.label
  message :=
    event.message

/-- The levels that records of a general logger know by their numbers. -/
def generalLevels : List Level :=
  [.debug, .info, .warning, .error, .critical]

/-- The name of a level that is given by its number. -/
def labelOfNumber (number : Nat) : String :=
  match generalLevels.find? fun level => level.number = number with
  | some level =>
      level.label
  | none =>
      "Level " ++ toString number

/-- A text filled up with blanks to a width. -/
def fillColumn (width : Nat) (text : String) : String :=
  text ++ String.ofList (List.replicate (width - text.length) ' ')

/-- A record as the log shows it. -/
def layout (record : Record) : String :=
  fillColumn 8 record.label ++ " | " ++ fillColumn 14 record.part ++ " | " ++
    record.message ++ "\n"

end Record

/-- The records that a log with a least level shows. -/
def shown (least : Level) (records : List Record) : String :=
  String.join ((records.filter fun record => least.number ≤ record.number).map Record.layout)

end CommandConsole.Log
