import CommandConsole.Attempt
import CommandConsole.Proofs.Registration

namespace CommandConsole.Registry

/-!
# The first registration of a name wins

Registrations are attempted one after the other, and one that is refused leaves
the registry as it is. Of all names with one upper-cased form the first that is
short enough is held, and words are looked up by their upper-cased forms in
exactly the commands that are held.
-/

/-- Attempt to register a command; one that is refused leaves the registry as it is. -/
def attempt (registry : Registry) (command : Command) : Attempt Registry Unit :=
  match registry.register command with
  | .ok next =>
      ⟨next, .ok ()⟩
  | .error fault =>
      ⟨registry, .error fault⟩

/-- The registry after registrations were attempted in order, each to whatever outcome. -/
def registerEach (registry : Registry) : List Command → Registry
  | [] =>
      registry
  | command :: commands =>
      registerEach (registry.attempt command).state commands

/-- Of all commands with the same key the first one, in order. -/
def firstOfEachKey (commands : List Command) : List Command :=
  commands.eraseDupsBy fun later earlier => later.key == earlier.key

/-- Whether a command's name is short enough and not taken. -/
def admits (registry : Registry) (command : Command) : Bool :=
  decide ((command.name.length : Int) ≤ registry.limit) && !registry.contains command.name

section Attempts

variable {registry : Registry} {command : Command}

/-- A name is contained if a command is held whose name has the same upper-cased form. -/
theorem contains_iff (registry : Registry) (name : String) :
    registry.contains name = true ↔
      ∃ held ∈ registry.commands, held.key = Text.uppercase name := by
  rw [contains, List.contains_iff_mem, keys, List.mem_map]

theorem admits_iff :
    registry.admits command = true ↔
      (command.name.length : Int) ≤ registry.limit ∧
        ∀ held ∈ registry.commands, held.key ≠ command.key := by
  rw [admits, Bool.and_eq_true, decide_eq_true_iff, Bool.not_eq_true', ← Bool.not_eq_true,
    contains_iff]
  simp [Command.key]

theorem attempt_of_too_long (tooLong : registry.limit < command.name.length) :
    registry.attempt command =
      ⟨registry, .error (.nameTooLong command.name registry.limit)⟩ := by
  rw [attempt, register, dif_pos tooLong]

theorem attempt_of_taken
    (short : (command.name.length : Int) ≤ registry.limit)
    (taken : ∃ held ∈ registry.commands, held.key = command.key) :
    registry.attempt command = ⟨registry, .error (.duplicateCommand command.key)⟩ := by
  obtain ⟨held, member, sameKey⟩ := taken
  have isTaken : command.key ∈ registry.keys :=
    List.mem_map.mpr ⟨held, member, sameKey⟩
  rw [attempt, register, dif_neg (Int.not_lt.mpr short), dif_pos isTaken]

theorem attempt_of_admits (admitted : registry.admits command = true) :
    (registry.attempt command).outcome = .ok () ∧
      (registry.attempt command).state.limit = registry.limit ∧
      (registry.attempt command).state.commands = registry.commands ++ [command] := by
  obtain ⟨short, different⟩ := admits_iff.mp admitted
  have notTaken : command.key ∉ registry.keys := by
    intro taken
    obtain ⟨held, member, sameKey⟩ := List.mem_map.mp taken
    exact different held member sameKey
  obtain ⟨next, registered, sameLimit⟩ := exists_register short notTaken
  rw [attempt, registered]
  exact ⟨rfl, sameLimit, commands_of_register registered⟩

/-- A command that is not admitted changes nothing. -/
theorem state_attempt_of_not_admits (refused : ¬ registry.admits command = true) :
    (registry.attempt command).state = registry := by
  by_cases short : (command.name.length : Int) ≤ registry.limit
  · have taken : ∃ held ∈ registry.commands, held.key = command.key := by
      simpa [admits_iff, short] using refused
    rw [attempt_of_taken short taken]
  · rw [attempt_of_too_long (Int.not_le.mp short)]

theorem limit_registerEach (registry : Registry) (attempts : List Command) :
    (registry.registerEach attempts).limit = registry.limit := by
  induction attempts generalizing registry with
  | nil =>
      rfl
  | cons command attempts inductionHypothesis =>
      rw [registerEach, inductionHypothesis]
      by_cases admitted : registry.admits command = true
      · exact (attempt_of_admits admitted).2.1
      · rw [state_attempt_of_not_admits admitted]

/-- A command that is added takes its key and nothing else. -/
theorem admits_attempt
    (admitted : registry.admits command = true)
    (other : Command) :
    (registry.attempt command).state.admits other =
      (decide ((other.key == command.key) = false) && registry.admits other) := by
  obtain ⟨_, sameLimit, behind⟩ := attempt_of_admits admitted
  rw [Bool.eq_iff_iff, Bool.and_eq_true, admits_iff, admits_iff, sameLimit, behind]
  simp only [List.forall_mem_append, List.forall_mem_singleton, decide_eq_true_iff,
    beq_eq_false_iff_ne, ne_comm (a := command.key)]
  tauto

/-- A registry holds its commands and, behind them, the first of each key that it admits. -/
theorem commands_registerEach (registry : Registry) (attempts : List Command) :
    (registry.registerEach attempts).commands =
      registry.commands ++ firstOfEachKey (attempts.filter registry.admits) := by
  induction attempts generalizing registry with
  | nil =>
      simp [registerEach, firstOfEachKey]
  | cons command attempts inductionHypothesis =>
      rw [registerEach, inductionHypothesis]
      by_cases admitted : registry.admits command = true
      · have later :
            attempts.filter (registry.attempt command).state.admits =
              (attempts.filter registry.admits).filter fun other =>
                decide ((other.key == command.key) = false) := by
          rw [List.filter_filter]
          exact List.filter_congr fun other _ => admits_attempt admitted other
        rw [(attempt_of_admits admitted).2.2, later, List.filter_cons_of_pos admitted,
          firstOfEachKey, firstOfEachKey, List.eraseDupsBy_cons, List.append_assoc,
          List.singleton_append]
      · rw [state_attempt_of_not_admits admitted, List.filter_cons_of_neg admitted]

/-- Of attempts on an empty registry the first of each key that is short enough is held. -/
theorem commands_registerEach_of_empty (limit : Int) (attempts : List Command) :
    (({ limit := limit } : Registry).registerEach attempts).commands =
      firstOfEachKey (attempts.filter fun command => (command.name.length : Int) ≤ limit) := by
  have admitsShort (command : Command) :
      ({ limit := limit } : Registry).admits command =
        decide ((command.name.length : Int) ≤ limit) := by
    simp [admits, contains, keys]
  rw [commands_registerEach, List.nil_append,
    List.filter_congr fun command _ => admitsShort command]

end Attempts

/-- What an attempt comes to: a name that is too long is refused before one that is taken. -/
structure Decides (registry : Registry) (command : Command) : Prop where
  tooLong :
    registry.limit < command.name.length →
      registry.attempt command =
        ⟨registry, .error (.nameTooLong command.name registry.limit)⟩
  taken :
    (command.name.length : Int) ≤ registry.limit →
      (∃ held ∈ registry.commands, held.key = command.key) →
        registry.attempt command = ⟨registry, .error (.duplicateCommand command.key)⟩
  accepted :
    (command.name.length : Int) ≤ registry.limit →
      (∀ held ∈ registry.commands, held.key ≠ command.key) →
        (registry.attempt command).outcome = .ok () ∧
          (registry.attempt command).state.limit = registry.limit ∧
          (registry.attempt command).state.commands = registry.commands ++ [command]

theorem decides (registry : Registry) (command : Command) : registry.Decides command :=
  ⟨attempt_of_too_long, attempt_of_taken, fun short different =>
    attempt_of_admits (admits_iff.mpr ⟨short, different⟩)⟩

/-- Everything that is asked of a registry is answered from the commands that it holds. -/
structure AnswersFromHeld (registry : Registry) : Prop where
  found :
    ∀ word command,
      registry.lookup word = .ok command ↔
        (word.length : Int) ≤ registry.limit ∧
          command ∈ registry.commands ∧ command.key = Text.uppercase word
  unique :
    ∀ first ∈ registry.commands, ∀ second ∈ registry.commands,
      first.key = second.key → first = second
  tooLong :
    ∀ word,
      registry.lookup word = .error (.nameTooLong word registry.limit) ↔
        registry.limit < word.length
  unknown :
    ∀ word,
      registry.lookup word = .error (.unknownCommand word) ↔
        (word.length : Int) ≤ registry.limit ∧
          ∀ command ∈ registry.commands, command.key ≠ Text.uppercase word
  ownName : ∀ command ∈ registry.commands, registry.lookup command.name = .ok command
  contained :
    ∀ name,
      registry.contains name = true ↔
        ∃ command ∈ registry.commands, command.key = Text.uppercase name
  distinct : registry.keys.Nodup
  counted : registry.size = registry.keys.length

/-- A lookup ends in one of three ways, by the length of the word and what is held. -/
theorem lookup_cases (registry : Registry) (word : String) :
    (registry.limit < word.length ∧
      registry.lookup word = .error (.nameTooLong word registry.limit)) ∨
    ((word.length : Int) ≤ registry.limit ∧
      (∀ command ∈ registry.commands, command.key ≠ Text.uppercase word) ∧
      registry.lookup word = .error (.unknownCommand word)) ∨
    ((word.length : Int) ≤ registry.limit ∧
      ∃ command ∈ registry.commands,
        command.key = Text.uppercase word ∧ registry.lookup word = .ok command) := by
  by_cases short : (word.length : Int) ≤ registry.limit
  · refine .inr ?_
    by_cases named : ∃ command ∈ registry.commands, command.key = Text.uppercase word
    · obtain ⟨command, held, sameKey⟩ := named
      exact .inr ⟨short, command, held, sameKey, lookup_of_key short held sameKey⟩
    · have different : ∀ command ∈ registry.commands, command.key ≠ Text.uppercase word := by
        simpa using named
      have missed :
          registry.commands.find? (fun command => command.key = Text.uppercase word) = none :=
        List.find?_eq_none.mpr (by simpa using different)
      refine .inl ⟨short, different, ?_⟩
      rw [lookup, if_neg (Int.not_lt.mpr short), missed]
  · have tooLong := Int.not_le.mp short
    exact .inl ⟨tooLong, by rw [lookup, if_pos tooLong]⟩

theorem answersFromHeld (registry : Registry) : registry.AnswersFromHeld where
  found := by
    intro word command
    constructor
    · intro found
      rcases registry.lookup_cases word with ⟨_, missed⟩ | ⟨_, _, missed⟩ | ⟨short, _⟩
      · rw [missed] at found
        exact nomatch found
      · rw [missed] at found
        exact nomatch found
      · exact ⟨short, mem_of_lookup found⟩
    · rintro ⟨short, held, named⟩
      exact lookup_of_key short held named
  unique := by
    intro first firstHeld second secondHeld sameKey
    exact List.inj_on_of_nodup_map registry.distinctKeys firstHeld secondHeld sameKey
  tooLong := by
    intro word
    rcases registry.lookup_cases word with
      ⟨tooLong, missed⟩ | ⟨short, _, missed⟩ | ⟨short, _, _, _, found⟩
    · simp [missed, tooLong]
    · simp [missed, short]
    · simp [found, short]
  unknown := by
    intro word
    rcases registry.lookup_cases word with
      ⟨tooLong, missed⟩ | ⟨short, different, missed⟩ | ⟨_, command, held, named, found⟩
    · simp [missed, Int.not_le.mpr tooLong]
    · simpa [missed, short] using different
    · simp only [found, reduceCtorEq, false_iff, not_and]
      exact fun _ different => different command held named
  ownName := fun _ held => lookup_name held
  contained := registry.contains_iff
  distinct := registry.distinctKeys
  counted := (List.length_map ..).symm

/--
The first registration of a name wins, up to letter case. Whatever is attempted
on an empty registry, it holds of the attempts that are short enough the first
of each key, in order. Each attempt adds its command or changes nothing, by the
length of its name and by what the attempts before it have left in the registry.
Lookups and questions are answered from the commands that are held.
-/
theorem first_registration_wins (limit : Int) (attempts : List Command) :
    let registry := ({ limit := limit } : Registry).registerEach attempts
    registry.limit = limit ∧
      registry.commands =
        firstOfEachKey (attempts.filter fun command => (command.name.length : Int) ≤ limit) ∧
      (∀ earlier command later, attempts = earlier ++ command :: later →
        (({ limit := limit } : Registry).registerEach earlier).Decides command) ∧
      registry.AnswersFromHeld := by
  intro registry
  exact ⟨limit_registerEach _ _, commands_registerEach_of_empty limit attempts,
    fun _ _ _ _ => decides _ _, registry.answersFromHeld⟩

/-- Of two spellings of a name the first is held, and the other one still finds its command. -/
theorem first_registration_wins_over_spellings :
    let attempts : List Command :=
      [{ name := "set" }, { name := "Straße" }, { name := "STRASSE" }, { name := "SET ALL" }]
    let earlier : List Command :=
      [{ name := "set" }, { name := "Straße" }]
    let fresh (limit : Int) : Registry := { limit := limit }
    let registry := (fresh 6).registerEach attempts
    registry.commands = [{ name := "set" }, { name := "Straße" }] ∧
      ((fresh 7).registerEach earlier).attempt { name := "STRASSE" } =
        ⟨(fresh 7).registerEach earlier, .error (.duplicateCommand "STRASSE")⟩ ∧
      registry.lookup "straße" = .ok { name := "Straße" } ∧
      registry.lookup "STRASSE" = .error (.nameTooLong "STRASSE" 6) ∧
      registry.contains "STRASSE" = true := by
  intro attempts earlier fresh registry
  obtain ⟨sameLimit, held, _, answers⟩ := first_registration_wins 6 attempts
  obtain ⟨_, _, decided, _⟩ := first_registration_wins 7 attempts
  have evaluated :
      firstOfEachKey (attempts.filter fun command => (command.name.length : Int) ≤ 6) =
          [{ name := "set" }, { name := "Straße" }] ∧
        (∃ command ∈ ((fresh 7).registerEach earlier).commands,
          command.key = Command.key { name := "STRASSE" }) ∧
        Command.key { name := "Straße" } = Text.uppercase "straße" ∧
        Command.key { name := "Straße" } = Text.uppercase "STRASSE" := by
    decide +kernel
  obtain ⟨evaluatedHeld, taken, lowerSpelling, upperSpelling⟩ := evaluated
  have commands : registry.commands = [{ name := "set" }, { name := "Straße" }] :=
    held.trans evaluatedHeld
  have member : ({ name := "Straße" } : Command) ∈ registry.commands := by
    rw [commands]
    simp
  refine ⟨commands, ?_, ?_, ?_, ?_⟩
  · exact (decided earlier { name := "STRASSE" } [{ name := "SET ALL" }] rfl).taken
      (by decide +kernel) taken
  · exact (answers.found _ _).mpr ⟨by rw [sameLimit]; decide, member, lowerSpelling⟩
  · rw [← sameLimit]
    exact (answers.tooLong _).mpr (by rw [sameLimit]; decide)
  · exact (answers.contained _).mpr ⟨_, member, upperSpelling⟩

end CommandConsole.Registry
