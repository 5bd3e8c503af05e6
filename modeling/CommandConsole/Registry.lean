import CommandConsole.Command.Basic
import CommandConsole.Fault
import CommandConsole.Text.Uppercase

namespace CommandConsole

/-!
# The registry of commands

Commands are found by their upper-cased names and listed in the order of their
registration. The first registration of a name wins, and no name is longer
than the registry's limit.
-/

/-- The name under which a command is found, whatever its letter case. -/
def Command.key (command : Command) : String :=
  Text.uppercase command.name

/-- Registered commands together with the limit on the length of their names. -/
structure Registry where
  limit : Int
  commands : List Command := []
  distinctKeys : (commands.map Command.key).Nodup := by simp
  namesWithinLimit : ∀ command ∈ commands, (command.name.length : Int) ≤ limit := by simp
  deriving Repr, DecidableEq

namespace Registry

/-- The keys of the registered commands in registration order. -/
def keys (registry : Registry) : List String :=
  registry.commands.map Command.key

/-- Whether a command has the name in any letter case; the length of the name does not count. -/
def contains (registry : Registry) (name : String) : Bool :=
  registry.keys.contains (Text.uppercase name)

/-- The count of registered commands. -/
def size (registry : Registry) : Nat :=
  registry.commands.length

/-- Register a command behind those already registered. -/
def register (registry : Registry) (command : Command) : Except Fault Registry :=
  if tooLong : registry.limit < command.name.length then
    .error (.nameTooLong command.name registry.limit)
  else if taken : command.key ∈ registry.keys then
    .error (.duplicateCommand command.key)
  else
    .ok {
      limit := registry.limit
      commands := registry.commands ++ [command]
      distinctKeys := by
        rw [List.map_append, List.map_singleton, List.nodup_append]
        refine ⟨registry.distinctKeys, by simp, ?_⟩
        intro key member other single same
        rw [List.mem_singleton.mp single] at same
        exact taken (same ▸ member)
      namesWithinLimit := by
        intro other member
        rcases List.mem_append.mp member with held | added
        · exact registry.namesWithinLimit other held
        · rw [List.mem_singleton.mp added]
          exact Int.not_lt.mp tooLong
    }

/-- The command that a word names. -/
def lookup (registry : Registry) (word : String) : Except Fault Command :=
  if registry.limit < word.length then
    .error (.nameTooLong word registry.limit)
  else
    match registry.commands.find? fun command => command.key = Text.uppercase word with
    | some command =>
        .ok command
    | none =>
        .error (.unknownCommand word)

/-- A command that is registered stands behind all others. -/
theorem commands_of_register
    {registry next : Registry}
    {command : Command}
    (registered : registry.register command = .ok next) :
    next.commands = registry.commands ++ [command] := by
  unfold register at registered
  split at registered
  · exact nomatch registered
  · split at registered
    · exact nomatch registered
    · exact (Except.ok.inj registered) ▸ rfl

/-- A command that is found is held, and its key is the upper-cased word. -/
theorem mem_of_lookup
    {registry : Registry}
    {word : String}
    {command : Command}
    (found : registry.lookup word = .ok command) :
    command ∈ registry.commands ∧ command.key = Text.uppercase word := by
  unfold lookup at found
  split at found
  · exact nomatch found
  · split at found
    · next command held =>
        obtain rfl := Except.ok.inj found
        have sameKey := List.find?_some held
        exact ⟨List.mem_of_find?_eq_some held, of_decide_eq_true sameKey⟩
    · exact nomatch found

end Registry

end CommandConsole
