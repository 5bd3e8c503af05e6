import CommandConsole.Number.Layout
import CommandConsole.Text.Quoted

namespace CommandConsole.Log

/-!
# Values in messages

The values that a message template shows. A value is shown as it is or in the
form in which a list shows it, where texts are quoted.
-/

/-- A value that a template shows. -/
inductive Value where
  | nothing
  | truth (value : Bool)
  | integer (value : Int)
  | real (value : Number.Double)
  | text (value : String)
  | list (items : List Value)
  /-- Values by their names, in order. -/
  | record (fields : List (String × Value))
  deriving Repr

namespace Value

/-- The name of a value's kind in faults. -/
def kind : Value → String
  | .nothing =>
      "NoneType"
  | .truth _ =>
      "bool"
  | .integer _ =>
      "int"
  | .real _ =>
      "float"
  | .text _ =>
      "str"
  | .list _ =>
      "list"
  | .record _ =>
      "dict"

mutual

/-- The form in which a list shows a value. -/
def shownQuoted : Value → String
  | .nothing =>
      "None"
  | .truth value =>
      if value then "True" else "False"
  | .integer value =>
      toString value
  | .real value =>
      String.ofList value.shown
  | .text value =>
      Text.quoted value
  | .list items =>
      "[" ++ ", ".intercalate (shownItems items) ++ "]"
  | .record fields =>
      "\x7b" ++ ", ".intercalate (shownFields fields) ++ "\x7d"

/-- The forms of a list's items. -/
def shownItems : List Value → List String
  | [] =>
      []
  | item :: items =>
      shownQuoted item :: shownItems items

/-- The forms of a record's fields. -/
def shownFields : List (String × Value) → List String
  | [] =>
      []
  | (name, value) :: fields =>
      (Text.quoted name ++ ": " ++ shownQuoted value) :: shownFields fields

end

/-- The form in which a message shows a value: a text is not quoted. -/
def shown : Value → String
  | .text value =>
      value
  | value =>
      value.shownQuoted

/-- The integer that a value is; a truth value is one or zero. -/
def integer? : Value → Option Int
  | .truth value =>
      some (if value then 1 else 0)
  | .integer value =>
      some value
  | _ =>
      none

end Value

end CommandConsole.Log
