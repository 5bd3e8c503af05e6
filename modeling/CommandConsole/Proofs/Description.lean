import CommandConsole.Proofs.FirstRegistration
import CommandConsole.Proofs.Restoration
import CommandConsole.Proofs.Text.Uppercase

namespace CommandConsole

/-!
# Commands are listed and described alike

The listing shows the commands that are held, and a command is described by its
name between double quotes, in any spelling with the same upper-cased form. The
name is not taken for that of a variable, so no variable changes either.
-/

namespace Line

/-- The line that asks for the description of a command. -/
def describing (name : String) : String :=
  "HELP " ++ quote name

theorem describing_eq_quoting (name : String) :
    describing name = quoting [] "HELP" [.spaced name] [] := by
  rw [← String.toList_inj]
  simp [describing, quote, quoting, QuotedArgument.spelled, QuotedArgument.spaced, enclosed,
    quotationMark]

end Line

namespace Scope

open Line

variable {scope : Scope} {host : Host}

/-- Asked for no command, the listing shows all that are held. -/
theorem outcome_interpret_help
    (held : Builtin.help.command ∈ scope.registry.commands) :
    (scope.interpret host "HELP").outcome = .ok ⟨.none, .listing scope.registry.commands⟩ := by
  have found := Registry.lookup_name held
  have parsed :
      (Invocation.ofLine? scope.registry scope.store (quoting [] "HELP" [] [])).outcome =
        .ok (some ⟨Builtin.help.command, [""]⟩) :=
    Invocation.outcome_ofLine?_quoting found (by decide) (by decide)
      (forall_not_blank_of_all (by decide)) (List.forall_mem_nil _) (List.forall_mem_nil _)
      (Nat.zero_le _) (by decide) (by simp) (List.forall_mem_nil _)
  exact outcome_interpret_of_found parsed

/-- A command is described by any word between double quotes that finds it. -/
theorem outcome_interpret_describing
    {command : Command}
    {spelling : String}
    (held : Builtin.help.command ∈ scope.registry.commands)
    (found : scope.registry.lookup spelling = .ok command)
    (nonempty : spelling ≠ "")
    (enclosable : Enclosable spelling.toList) :
    (scope.interpret host (describing spelling)).outcome = .ok ⟨.none, .detail command⟩ := by
  have parsed :
      (Invocation.ofLine? scope.registry scope.store (describing spelling)).outcome =
        .ok (some ⟨Builtin.help.command, [spelling]⟩) := by
    rw [describing_eq_quoting]
    exact outcome_ofLine?_of_builtin .help [spelling] held rfl (by simp [Builtin.command])
      (by simpa using enclosable)
  rw [outcome_interpret_of_found parsed]
  show (Builtin.performHelp scope spelling).outcome = _
  rw [Builtin.performHelp, if_neg nonempty, Script.outcome_bind, Script.outcome_ofExcept, found]
  rfl

end Scope

namespace Session

open Line

/-- How a command that is listed is described, whatever variables are set. -/
structure DescribesListed (session : Session) (host : Host) (command : Command) : Prop where
  /-- The name of the command between double quotes describes it. -/
  byName :
    Enclosable command.name.toList →
      ∀ store,
        ({ session with store := store }.run host (describing command.name)).outcome =
          .ok (.detail command)
  /-- So does every other spelling of the name. -/
  bySpelling :
    ∀ spelling,
      Text.uppercase spelling = Text.uppercase command.name →
        (spelling.length : Int) ≤ session.registry.limit →
          Enclosable spelling.toList →
            ∀ store,
              ({ session with store := store }.run host (describing spelling)).outcome =
                .ok (.detail command)
  message : (Reply.detail command).message = command.detail
  data : (Reply.detail command).data = [("command", .text command.name)]
  /-- The description and the line of the listing start alike. -/
  sameUsage :
    ∃ description hint,
      command.detail = command.usage ++ ":" ++ description ∧
        command.summary = command.usage ++ ":" ++ hint

variable {session : Session}

/-- Other variables do not disturb a session. -/
theorem undisturbed_withStore
    {polls : Nat}
    (undisturbed : session.Undisturbed polls)
    (store : Variables) :
    ({ session with store := store } : Session).Undisturbed polls :=
  ⟨undisturbed.lowered, undisturbed.alarmLater⟩

/-- A listed command with a name that is not empty is described by all its spellings. -/
theorem describesListed
    {command : Command}
    (undisturbed : ∀ polls, session.Undisturbed polls)
    (offersHelp : Builtin.help.command ∈ session.registry.commands)
    (host : Host)
    (listed : command ∈ session.registry.commands)
    (named : command.name ≠ "") :
    session.DescribesListed host command := by
  have bySpelling
      (spelling : String)
      (sameForm : Text.uppercase spelling = Text.uppercase command.name)
      (short : (spelling.length : Int) ≤ session.registry.limit)
      (enclosable : Enclosable spelling.toList)
      (store : Variables) :
      ({ session with store := store }.run host (describing spelling)).outcome =
        .ok (.detail command) := by
    have nonempty : spelling ≠ "" := by
      rintro rfl
      exact named ((Text.uppercase_eq_empty_iff _).mp sameForm.symm)
    have found : session.registry.lookup spelling = .ok command :=
      Registry.lookup_of_key short listed sameForm.symm
    exact outcome_run_of_no_effect (undisturbed_withStore (undisturbed _) store)
      (Scope.outcome_interpret_describing offersHelp found nonempty enclosable)
  exact {
    byName := bySpelling command.name rfl (session.registry.namesWithinLimit command listed)
    bySpelling := bySpelling
    message := rfl
    data := rfl
    sameUsage := by
      refine ⟨"\n" ++ Command.separator ++ "\n" ++ command.longDescription ++ "\n" ++
        Command.separator, "\n\t" ++ command.shortDescription, ?_, ?_⟩
      · rw [Command.detail, show ":\n" = ":" ++ "\n" from rfl]
        simp only [String.append_assoc]
      · rw [Command.summary, show ":\n\t" = ":" ++ "\n\t" from rfl]
        simp only [String.append_assoc]
  }

/--
The listing and the descriptions are of the same commands. Whatever
registrations were attempted, a session that offers help and is not stopped
lists each command that is held once, in the order of registration. Each of them
whose name is not empty is described by its name between double quotes, and by
every other spelling, provided that no double quote in it stands in front of a
blank. Variables change neither.
-/
theorem listed_commands_are_described
    {limit : Int}
    {attempts : List Command}
    (registered : session.registry = ({ limit := limit } : Registry).registerEach attempts)
    (offersHelp : Builtin.help.command ∈ session.registry.commands)
    (undisturbed : ∀ polls, session.Undisturbed polls)
    (host : Host) :
    let commands := session.registry.commands
    commands =
        Registry.firstOfEachKey
          (attempts.filter fun command => (command.name.length : Int) ≤ limit) ∧
      commands.Nodup ∧
      (∀ store,
        ({ session with store := store }.run host "HELP").outcome = .ok (.listing commands)) ∧
      (Reply.listing commands).message = "\n".intercalate (commands.map Command.summary) ∧
      (Reply.listing commands).data = [("commands", .texts (commands.map Command.name))] ∧
      ∀ command ∈ commands, command.name ≠ "" → session.DescribesListed host command := by
  intro commands
  refine ⟨?_, List.Nodup.of_map _ session.registry.distinctKeys, ?_, rfl, rfl, ?_⟩
  · show session.registry.commands = _
    rw [registered]
    exact Registry.commands_registerEach_of_empty limit attempts
  · intro store
    exact outcome_run_of_no_effect (undisturbed_withStore (undisturbed _) store)
      (Scope.outcome_interpret_help offersHelp)
  · intro command listed named
    exact describesListed undisturbed offersHelp host listed named

/-- A name with a space and one that grows in upper case are described in other spellings. -/
theorem listed_commands_are_described_in_any_case :
    let host : Host := ⟨fun path => .error (.system (.missing path.text)), "1.0.0", 0, true⟩
    let words : Command := { name := "two words", parameters := [{ name := "axis" }] }
    let street : Command := { name := "Straße", shortDescription := "Find a street." }
    let attempts : List Command :=
      [Builtin.help.command, Builtin.set.command, words, { name := "set" }, street]
    let fresh (limit : Int) : Registry := { limit := limit }
    let session : Session :=
      { registry := (fresh 32).registerEach attempts, queue := ⟨256, [], by decide⟩ }
    let store : Variables := ({} : Variables).set "\"TWO" "VERSION"
    ({ session with store := store }.run host "HELP").outcome =
        .ok (.listing [Builtin.help.command, Builtin.set.command, words, street]) ∧
      ({ session with store := store }.run host "HELP \"two words\"").outcome =
        .ok (.detail words) ∧
      ({ session with store := store }.run host "HELP \"TWO words\"").outcome =
        .ok (.detail words) ∧
      ({ session with store := store }.run host "HELP \"STRASSE\"").outcome =
        .ok (.detail street) := by
  intro host words street attempts fresh session store
  have registered : session.registry = (fresh 32).registerEach attempts := by
    dsimp only [session]
  have evaluated :
      Registry.firstOfEachKey
            (attempts.filter fun command => (command.name.length : Int) ≤ 32) =
          [Builtin.help.command, Builtin.set.command, words, street] ∧
        Text.uppercase "TWO words" = Text.uppercase words.name ∧
        Text.uppercase "STRASSE" = Text.uppercase street.name := by
    decide +kernel
  obtain ⟨held, wordsForm, streetForm⟩ := evaluated
  have limit : session.registry.limit = 32 := by
    rw [registered, Registry.limit_registerEach]
  have offersHelp : Builtin.help.command ∈ session.registry.commands := by
    rw [registered, Registry.commands_registerEach_of_empty, held]
    exact List.mem_cons_self
  have undisturbed : ∀ polls, session.Undisturbed polls :=
    undisturbed_of_no_alarm rfl rfl
  obtain ⟨commands, _, lists, _, _, describes⟩ :=
    listed_commands_are_described registered offersHelp undisturbed host
  rw [held] at commands
  have describesWords := describes words (by rw [commands]; simp) (by decide)
  have describesStreet := describes street (by rw [commands]; simp) (by decide)
  rw [commands] at lists
  refine ⟨lists store, ?_, ?_, ?_⟩
  · exact describesWords.byName (by decide) store
  · exact describesWords.bySpelling "TWO words" wordsForm (by rw [limit]; decide) (by decide) store
  · exact describesStreet.bySpelling "STRASSE" streetForm (by rw [limit]; decide) (by decide) store

end Session

end CommandConsole
