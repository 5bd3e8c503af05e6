import CommandConsole.Proofs.Quotation
import CommandConsole.Proofs.Reachability

namespace CommandConsole

/-!
# Variables are dumped and restored by lines

A name and a value that are put between double quotes are read back as they
are, since no stored text has a double quote in front of a blank. So a store is
rebuilt by setting its listed variables in order, as long as no name starts
with a quote and is taken for the start of a quoted value.
-/

namespace Line

/-- A text between double quotes. -/
def quote (text : String) : String :=
  "\"" ++ text ++ "\""

/-- The line that shows a variable. -/
def showing (key : String) : String :=
  "GET " ++ quote key

/-- The line that sets a variable. -/
def setting (key value : String) : String :=
  "SET " ++ quote key ++ " " ++ quote value

theorem showing_eq_quoting (key : String) :
    showing key = quoting [] "GET" [.spaced key] [] := by
  rw [← String.toList_inj]
  simp [showing, quote, quoting, QuotedArgument.spelled, QuotedArgument.spaced, enclosed,
    quotationMark]

theorem setting_eq_quoting (key value : String) :
    setting key value = quoting [] "SET" [.spaced key, .spaced value] [] := by
  rw [← String.toList_inj]
  simp [setting, quote, quoting, QuotedArgument.spelled, QuotedArgument.spaced, enclosed,
    quotationMark]

/-- What a parameter sees of a quoted argument starts with a double quote. -/
theorem QuotedArgument.head?_opening (argument : QuotedArgument) :
    argument.opening.toList.head? = some quotationMark := by
  simp [opening, firstWord, enclosed, isBlank_quotationMark]

end Line

namespace Scope

open Line

variable {scope : Scope} {host : Host}

/-- A line whose invocation is found comes to what the invocation comes to. -/
theorem outcome_interpret_of_found
    {line : String}
    {invocation : Invocation}
    (found : (Invocation.ofLine? scope.registry scope.store line).outcome =
      .ok (some invocation)) :
    (scope.interpret host line).outcome = (invocation.perform scope host).outcome := by
  rw [interpret, Script.outcome_bind, found]
  rfl

/-- A built-in command that is given all its arguments between quotes is found with them. -/
theorem outcome_ofLine?_of_builtin
    (builtin : Builtin)
    (values : List String)
    (held : builtin.command ∈ scope.registry.commands)
    (full : values.length = builtin.command.parameters.length)
    (unresolved : ∀ pair ∈ builtin.command.parameters.zip (values.map QuotedArgument.spaced),
      pair.1.resolves = true → scope.store.get? pair.2.opening = none)
    (enclosable : ∀ value ∈ values, Enclosable value.toList) :
    (Invocation.ofLine? scope.registry scope.store
      (quoting [] builtin.command.name (values.map QuotedArgument.spaced) [])).outcome =
        .ok (some ⟨builtin.command, values⟩) := by
  have sameLength :
      (values.map QuotedArgument.spaced).length = builtin.command.parameters.length := by
    rw [List.length_map, full]
  have quotable : ∀ parameter ∈ builtin.command.parameters, parameter.quotable = true := by
    cases builtin <;> decide
  have named : builtin.command.name ≠ "" := by
    cases builtin <;> decide
  have noBlank : ∀ character ∈ builtin.command.name.toList, Text.isBlank character = false :=
    forall_not_blank_of_all (by cases builtin <;> decide)
  have parsed := Invocation.outcome_ofLine?_quoting (Registry.lookup_name held) quotable named
    noBlank (List.forall_mem_nil _) (List.forall_mem_nil _) (Nat.le_of_eq sameLength)
    (by simp [sameLength]) unresolved (by simpa [QuotedArgument.spaced] using enclosable)
  have sameValues : (values.map QuotedArgument.spaced).map QuotedArgument.value = values := by
    simp [Function.comp_def, QuotedArgument.spaced]
  rwa [sameLength, Nat.sub_self, List.replicate_zero, List.append_nil, sameValues] at parsed

/-- The listing shows all entries. -/
theorem outcome_interpret_listing
    (held : Builtin.listVariables.command ∈ scope.registry.commands) :
    (scope.interpret host "VARIABLES").outcome =
      .ok ⟨.none, .variablesListed scope.store.entries⟩ := by
  have parsed := outcome_ofLine?_of_builtin .listVariables [] held rfl (by simp) (by simp)
  exact outcome_interpret_of_found parsed

/-- A variable whose name is enclosable is shown with its value. -/
theorem outcome_interpret_showing
    {key value : String}
    (held : Builtin.get.command ∈ scope.registry.commands)
    (enclosable : Enclosable key.toList)
    (listed : (key, value) ∈ scope.store.entries) :
    (scope.interpret host (showing key)).outcome =
      .ok ⟨.none, .valueShown key value⟩ := by
  have parsed :
      (Invocation.ofLine? scope.registry scope.store (showing key)).outcome =
        .ok (some ⟨Builtin.get.command, [key]⟩) := by
    rw [showing_eq_quoting]
    exact outcome_ofLine?_of_builtin .get [key] held rfl (by simp [Builtin.command])
      (by simpa using enclosable)
  have stored := Variables.get?_of_mem_entries listed
  rw [outcome_interpret_of_found parsed]
  show (Builtin.performGet scope key).outcome = _
  rw [Builtin.performGet, Script.outcome_bind, Script.outcome_ofExcept, Variables.get, stored]
  rfl

/-- A variable whose name and value are enclosable is set. -/
theorem outcome_interpret_setting
    {key value : String}
    (held : Builtin.set.command ∈ scope.registry.commands)
    (keyEnclosable : Enclosable key.toList)
    (valueEnclosable : Enclosable value.toList)
    (unquoted : ∀ entry ∈ scope.store.entries, entry.1.toList.head? ≠ some quotationMark) :
    (scope.interpret host (setting key value)).outcome =
      .ok ⟨.assign key value, .assigned key value⟩ := by
  have absent (argument : QuotedArgument) :
      scope.store.get? argument.opening = none := by
    cases stored : scope.store.get? argument.opening with
    | none =>
        rfl
    | some current =>
        have listed := Variables.mem_entries_of_get? stored
        exact (unquoted _ listed argument.head?_opening).elim
  have parsed :
      (Invocation.ofLine? scope.registry scope.store (setting key value)).outcome =
        .ok (some ⟨Builtin.set.command, [key, value]⟩) := by
    rw [setting_eq_quoting]
    exact outcome_ofLine?_of_builtin .set [key, value] held rfl (fun pair _ _ => absent pair.2)
      (by simpa using ⟨keyEnclosable, valueEnclosable⟩)
  rw [outcome_interpret_of_found parsed]
  rfl

end Scope

namespace Session

open Line

/-- The session after lines were run in order, each to whatever outcome. -/
def runAll (session : Session) (host : Host) : List String → Session
  | [] =>
      session
  | line :: lines =>
      runAll (session.run host line).state host lines

/-- Running lines in order moves a session by steps. -/
theorem reachable_runAll (session : Session) (host : Host) (lines : List String) :
    Reachable session (session.runAll host lines) := by
  induction lines generalizing session with
  | nil =>
      exact .refl
  | cons line lines inductionHypothesis =>
      exact .head (.ran session host line) (inductionHypothesis _)

/-- A run whose script comes to a completion without any effect comes to its reply. -/
theorem outcome_run_of_no_effect
    {session : Session}
    {host : Host}
    {line : String}
    {reply : Reply}
    (undisturbed : session.Undisturbed (session.scope.interpret host line).pollCount)
    (comes : (session.scope.interpret host line).outcome = .ok ⟨.none, reply⟩) :
    (session.run host line).outcome = .ok reply := by
  rw [run_of_undisturbed undisturbed, comes]
  rfl

/-- Running a line that sets a variable makes the assignment and stays undisturbed. -/
theorem run_setting
    {session : Session}
    {key value : String}
    (host : Host)
    (undisturbed : ∀ polls, session.Undisturbed polls)
    (held : Builtin.set.command ∈ session.registry.commands)
    (keyEnclosable : Enclosable key.toList)
    (valueEnclosable : Enclosable value.toList)
    (unquoted : ∀ entry ∈ session.store.entries,
      entry.1.toList.head? ≠ some quotationMark) :
    let next := (session.run host (setting key value)).state
    next.registry = session.registry ∧
      next.store = session.store.set key value ∧
      ∀ polls, next.Undisturbed polls := by
  have completes :
      (session.scope.interpret host (setting key value)).outcome =
        .ok ⟨.assign key value, .assigned key value⟩ :=
    Scope.outcome_interpret_setting held keyEnclosable valueEnclosable unquoted
  intro next
  have concluded : next =
      (session.afterActs (session.scope.interpret host (setting key value)).acts).assign
        key value := by
    show (session.run host (setting key value)).state = _
    rw [run_of_undisturbed (undisturbed _), completes]
    rfl
  rw [concluded]
  refine ⟨rfl, rfl, ?_⟩
  intro polls
  have after :
      (session.afterActs (session.scope.interpret host (setting key value)).acts).Undisturbed
        polls :=
    Undisturbed.afterActs (undisturbed _)
  exact ⟨after.lowered, after.alarmLater⟩

/-- Setting new variables in order puts them behind the ones that are listed already. -/
theorem entries_runAll_setting
    {session : Session}
    {entries : List (String × String)}
    (host : Host)
    (undisturbed : ∀ polls, session.Undisturbed polls)
    (held : Builtin.set.command ∈ session.registry.commands)
    (enclosable : ∀ entry ∈ entries,
      Enclosable entry.1.toList ∧ Enclosable entry.2.toList)
    (unquoted : ∀ entry ∈ session.store.entries ++ entries,
      entry.1.toList.head? ≠ some quotationMark)
    (distinct : ((session.store.entries ++ entries).map Prod.fst).Nodup) :
    (session.runAll host (entries.map fun entry => setting entry.1 entry.2)).store.entries =
      session.store.entries ++ entries := by
  induction entries generalizing session with
  | nil =>
      simp [runAll]
  | cons entry entries inductionHypothesis =>
      obtain ⟨key, value⟩ := entry
      rw [List.forall_mem_cons] at enclosable
      obtain ⟨sameRegistry, stored, stillUndisturbed⟩ :=
        run_setting host undisturbed held enclosable.1.1 enclosable.1.2
          (fun entry listed => unquoted entry (List.mem_append_left _ listed))
      have absent : key ∉ session.store.keys := by
        intro present
        rw [List.map_append, List.nodup_append] at distinct
        exact distinct.2.2 key present key (by simp) rfl
      have behind : session.store.entries ++ (key, value) :: entries =
          (session.run host (setting key value)).state.store.entries ++ entries := by
        rw [stored, Variables.entries_set_of_absent absent, List.append_assoc,
          List.singleton_append]
      rw [← sameRegistry] at held
      rw [behind] at unquoted distinct ⊢
      exact inductionHypothesis stillUndisturbed held enclosable.2 unquoted distinct

/--
Variables can be dumped and restored by lines. In every session that comes
about from a fresh one, no name and no value of a variable has a double quote
in front of a blank; the listing shows all variables; each of them is shown
with its value by a line that has its name between double quotes; and where no
name starts with a double quote, setting the listed variables in order, with
names and values between double quotes, rebuilds the same variables in any
other fresh session.
-/
theorem dump_and_restore
    {start session : Session}
    (fresh : start.Fresh)
    (reachable : Reachable start session) :
    (∀ entry ∈ session.store.entries,
      Enclosable entry.1.toList ∧ Enclosable entry.2.toList) ∧
    (∀ host,
      session.Undisturbed (session.scope.interpret host "VARIABLES").pollCount →
      (session.run host "VARIABLES").outcome =
        .ok (.variablesListed session.store.entries)) ∧
    (∀ host, ∀ key value,
      (key, value) ∈ session.store.entries →
      session.Undisturbed (session.scope.interpret host (showing key)).pollCount →
      (session.run host (showing key)).outcome = .ok (.valueShown key value)) ∧
    ((∀ entry ∈ session.store.entries, entry.1.toList.head? ≠ some quotationMark) →
      ∀ host, ∀ other : Session,
        other.Fresh →
        (∀ polls, other.Undisturbed polls) →
        (other.runAll host
          (session.store.entries.map fun entry => setting entry.1 entry.2)).store =
            session.store) := by
  have enclosable : session.store.Enclosable := by
    apply reachable.enclosable
    rw [fresh.noVariables]
    exact fun entry listed => nomatch listed
  have held (builtin : Builtin) : builtin.command ∈ session.registry.commands :=
    reachable.commands_subset (fresh.offersBuiltins builtin)
  refine ⟨enclosable, ?_, ?_, ?_⟩
  · intro host undisturbed
    exact outcome_run_of_no_effect undisturbed (Scope.outcome_interpret_listing (held _))
  · intro host key value listed undisturbed
    exact outcome_run_of_no_effect undisturbed
      (Scope.outcome_interpret_showing (held _) (enclosable _ listed).1 listed)
  · intro unquoted host other otherFresh undisturbed
    have noEntries : other.store.entries = [] := by
      rw [otherFresh.noVariables]
    apply Variables.eq_of_entries_eq
    have rebuilt := entries_runAll_setting host undisturbed (otherFresh.offersBuiltins .set)
      enclosable (by simpa [noEntries] using unquoted)
      (by simpa [noEntries] using session.store.distinctKeys)
    rwa [noEntries, List.nil_append] at rebuilt

/-- Values with quotes and spaces are shown and restored, one of them begun by another variable. -/
theorem dump_and_restore_spliced :
    let host : Host := ⟨fun path => .error (.system (.missing path.text)), "1.0.0", 0, true⟩
    let start := offeringBuiltins 32 256
    let session := start.runAll host [
      "SET \"two words\" \"say  \"hi\"\"",
      "SET start \"\"hello\"",
      "SET long start   world\"",
      "SET refused \"a\" b\""]
    session.store.entries =
        [("two words", "say  \"hi\""), ("start", "\"hello"), ("long", "hello   world")] ∧
      (session.run host "VARIABLES").outcome = .ok (.variablesListed session.store.entries) ∧
      (session.run host "GET \"two words\"").outcome =
        .ok (.valueShown "two words" "say  \"hi\"") ∧
      (start.runAll host
        (session.store.entries.map fun entry => setting entry.1 entry.2)).store =
          session.store := by
  intro host start session
  have fresh : start.Fresh := fresh_offeringBuiltins (by decide) 256
  have evaluated :
      session.store.entries =
          [("two words", "say  \"hi\""), ("start", "\"hello"), ("long", "hello   world")] ∧
        (session.stop = .lowered ∧ session.alarm = none) ∧
        start.stop = .lowered ∧ start.alarm = none := by
    decide +kernel
  obtain ⟨entries, ⟨lowered, noAlarm⟩, startLowered, startNoAlarm⟩ := evaluated
  have undisturbed : ∀ polls, session.Undisturbed polls :=
    undisturbed_of_no_alarm lowered noAlarm
  have startUndisturbed : ∀ polls, start.Undisturbed polls :=
    undisturbed_of_no_alarm startLowered startNoAlarm
  have reachable : Reachable start session :=
    reachable_runAll start host _
  obtain ⟨_, listed, shown, restored⟩ := dump_and_restore fresh reachable
  have spelled : showing "two words" = "GET \"two words\"" := by
    decide
  have holds : ("two words", "say  \"hi\"") ∈ session.store.entries := by
    rw [entries]
    simp
  have unquoted : ∀ entry ∈ session.store.entries,
      entry.1.toList.head? ≠ some quotationMark := by
    rw [entries]
    decide
  have shownWords := shown host "two words" "say  \"hi\"" holds (undisturbed _)
  rw [spelled] at shownWords
  exact ⟨entries, listed host (undisturbed _), shownWords,
    restored unquoted host start fresh startUndisturbed⟩

end Session

end CommandConsole
