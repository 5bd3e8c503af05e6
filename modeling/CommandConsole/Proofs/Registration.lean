import CommandConsole.Program
import Mathlib.Data.List.Nodup

namespace CommandConsole

/-!
# Sessions with registered commands

A command that is registered is found by its own name, and commands with
different names that are short enough can all be registered. So a session that
starts with the built-in commands offers each of them.
-/

namespace Registry

/-- A word that is short enough finds the command whose key is its upper-cased form. -/
theorem lookup_of_key
    {registry : Registry}
    {word : String}
    {command : Command}
    (short : (word.length : Int) ≤ registry.limit)
    (held : command ∈ registry.commands)
    (named : command.key = Text.uppercase word) :
    registry.lookup word = .ok command := by
  rw [lookup, if_neg (Int.not_lt.mpr short)]
  cases found : registry.commands.find? (fun other => other.key = Text.uppercase word) with
  | none =>
      have differs := List.find?_eq_none.mp found command held
      simp [named] at differs
  | some other =>
      have matched := List.find?_some found
      have sameKey : other.key = command.key :=
        (of_decide_eq_true matched).trans named.symm
      have same : other = command :=
        List.inj_on_of_nodup_map registry.distinctKeys
          (List.mem_of_find?_eq_some found) held sameKey
      rw [same]

/-- A registered command is found by its own name. -/
theorem lookup_name
    {registry : Registry}
    {command : Command}
    (held : command ∈ registry.commands) :
    registry.lookup command.name = .ok command :=
  lookup_of_key (registry.namesWithinLimit command held) held rfl

/-- A command whose name is short enough and not taken can be registered. -/
theorem exists_register
    {registry : Registry}
    {command : Command}
    (short : (command.name.length : Int) ≤ registry.limit)
    (notTaken : command.key ∉ registry.keys) :
    ∃ next,
      registry.register command = .ok next ∧ next.limit = registry.limit := by
  rw [register, dif_neg (Int.not_lt.mpr short), dif_neg notTaken]
  exact ⟨_, rfl, rfl⟩

end Registry

namespace Session

/-- A command that is registered stands behind the others, and the store stays. -/
theorem scope_of_register
    {session next : Session}
    {command : Command}
    (accepted : session.register command = .ok next) :
    next.registry.commands = session.registry.commands ++ [command] ∧
      next.store = session.store := by
  unfold register at accepted
  cases registered : session.registry.register command with
  | error fault =>
      rw [registered] at accepted
      exact nomatch accepted
  | ok registry =>
      rw [registered] at accepted
      obtain rfl := Except.ok.inj accepted
      exact ⟨Registry.commands_of_register registered, rfl⟩

/-- Registering commands in order puts those that are accepted behind the others. -/
theorem scope_of_registerAll
    {session : Session}
    {commands : List Command}
    (accepted : (session.registerAll commands).outcome = .ok ()) :
    (session.registerAll commands).state.registry.commands =
        session.registry.commands ++ commands ∧
      (session.registerAll commands).state.store = session.store := by
  induction commands generalizing session with
  | nil =>
      simp [registerAll]
  | cons command commands inductionHypothesis =>
      unfold registerAll at accepted ⊢
      cases registered : session.register command with
      | error fault =>
          rw [registered] at accepted
          exact nomatch accepted
      | ok next =>
          rw [registered] at accepted
          obtain ⟨behind, sameStore⟩ := scope_of_register registered
          obtain ⟨allBehind, sameStoreAtEnd⟩ := inductionHypothesis accepted
          dsimp only
          rw [allBehind, behind, sameStoreAtEnd, sameStore, List.append_assoc]
          exact ⟨rfl, rfl⟩

/-- Commands with different names that are short enough can all be registered. -/
theorem outcome_registerAll
    {session : Session}
    {commands : List Command}
    (short : ∀ command ∈ commands,
      (command.name.length : Int) ≤ session.registry.limit)
    (distinct : ((session.registry.commands ++ commands).map Command.key).Nodup) :
    (session.registerAll commands).outcome = .ok () := by
  induction commands generalizing session with
  | nil =>
      rfl
  | cons command commands inductionHypothesis =>
      rw [List.forall_mem_cons] at short
      have notTaken : command.key ∉ session.registry.keys := by
        intro taken
        rw [List.map_append, List.nodup_append] at distinct
        exact distinct.2.2 command.key taken command.key (by simp) rfl
      obtain ⟨registry, registered, sameLimit⟩ :=
        Registry.exists_register short.1 notTaken
      have behind := Registry.commands_of_register registered
      have accepted : session.register command =
          .ok ({ session with registry := registry }.record (.registered command.key)) := by
        rw [register, registered]
        rfl
      rw [registerAll, accepted]
      apply inductionHypothesis
      · rw [← sameLimit] at short
        exact short.2
      · show ((registry.commands ++ commands).map Command.key).Nodup
        rwa [behind, List.append_assoc, List.singleton_append]

/-- A session that offers the built-in commands and has no variables. -/
structure Fresh (session : Session) : Prop where
  noVariables : session.store = {}
  offersBuiltins : ∀ builtin : Builtin, builtin.command ∈ session.registry.commands

/-- A session without variables that takes the built-in commands is fresh. -/
theorem fresh_of_registerAll
    {session : Session}
    (noVariables : session.store = {})
    (accepted : (session.registerAll (Builtin.all.map Builtin.command)).outcome = .ok ()) :
    (session.registerAll (Builtin.all.map Builtin.command)).state.Fresh := by
  obtain ⟨behind, sameStore⟩ := scope_of_registerAll accepted
  refine ⟨sameStore.trans noVariables, ?_⟩
  intro builtin
  have listed : builtin ∈ Builtin.all := by
    cases builtin <;> decide
  rw [behind]
  exact List.mem_append_right _ (List.mem_map_of_mem listed)

/-- The session that a program with the given limits starts with. -/
def offeringBuiltins (nameLimit lineLimit : Int) : Session :=
  ((empty nameLimit lineLimit).registerAll (Builtin.all.map Builtin.command)).state

/-- A limit that admits the longest built-in name admits all built-in commands. -/
theorem fresh_offeringBuiltins
    {nameLimit : Int}
    (enough : 9 ≤ nameLimit)
    (lineLimit : Int) :
    (offeringBuiltins nameLimit lineLimit).Fresh := by
  apply fresh_of_registerAll rfl
  apply outcome_registerAll
  · intro command listed
    have short : ∀ command ∈ Builtin.all.map Builtin.command, command.name.length ≤ 9 := by
      decide
    exact Int.le_trans (Int.ofNat_le.mpr (short command listed)) enough
  · show ((Builtin.all.map Builtin.command).map Command.key).Nodup
    decide +kernel

end Session

/-- A program that has registered the built-in commands starts with a fresh session. -/
theorem Program.fresh_of_registerBuiltins
    {program : Program}
    (noVariables : program.session.store = {})
    (accepted : program.registerBuiltins.outcome = .ok ()) :
    program.registerBuiltins.state.session.Fresh :=
  Session.fresh_of_registerAll noVariables accepted

end CommandConsole
