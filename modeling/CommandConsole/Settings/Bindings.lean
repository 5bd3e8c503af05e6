namespace CommandConsole.Settings

/-!
# Bindings

Values by their names in the order in which the names were first bound. Binding
a name again changes its value and keeps its place.
-/

/-- Put a value at its name, in its place if the name has one already. -/
def bind
    (bindings : List (String × α))
    (name : String)
    (value : α) :
    List (String × α) :=
  if bindings.any fun binding => binding.1 = name then
    bindings.map fun binding => if binding.1 = name then (name, value) else binding
  else
    bindings ++ [(name, value)]

/-- The bindings that assignments in order amount to. -/
def bindAll (assignments : List (String × α)) : List (String × α) :=
  assignments.foldl (fun bindings assignment => bind bindings assignment.1 assignment.2) []

end CommandConsole.Settings
