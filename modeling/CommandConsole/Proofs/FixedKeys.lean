import CommandConsole.Proofs.FirstRegistration
import CommandConsole.Proofs.Text.Uppercase

namespace CommandConsole.Registry

/-!
# Keys are their own upper-case forms

A key is an upper-cased name, and upper-casing it again leaves it as it is. So a
registry contains its keys as names, and the name that a refused duplicate is
reported with is one of them. A key may be longer than the name it comes from,
and then it is contained but too long to be looked up.
-/

section Keys

variable {registry : Registry} {key : String}

theorem uppercase_of_mem_keys (isKey : key ∈ registry.keys) : Text.uppercase key = key := by
  obtain ⟨command, _, rfl⟩ := List.mem_map.mp isKey
  exact Text.uppercase_uppercase command.name

theorem contains_of_mem_keys (isKey : key ∈ registry.keys) : registry.contains key = true := by
  rw [contains, uppercase_of_mem_keys isKey, List.contains_iff_mem]
  exact isKey

/-- A key finds its command, unless it is itself longer than names may be. -/
theorem exists_lookup_of_mem_keys (isKey : key ∈ registry.keys) :
    ∃ command ∈ registry.commands,
      command.key = key ∧
        registry.lookup key =
          if registry.limit < key.length then
            .error (.nameTooLong key registry.limit)
          else
            .ok command := by
  have itself := uppercase_of_mem_keys isKey
  obtain ⟨command, held, rfl⟩ := List.mem_map.mp isKey
  refine ⟨command, held, rfl, ?_⟩
  split
  · next tooLong =>
      exact (registry.answersFromHeld.tooLong _).mpr tooLong
  · next short =>
      exact lookup_of_key (Int.not_lt.mp short) held itself.symm

end Keys

/-- A duplicate is reported with its key, which is taken. -/
theorem mem_keys_of_duplicate
    {registry : Registry}
    {command : Command}
    {reported : String}
    (refused : registry.register command = .error (.duplicateCommand reported)) :
    reported = command.key ∧ reported ∈ registry.keys := by
  unfold register at refused
  split at refused
  · cases refused
  · split at refused
    · next taken =>
        cases refused
        exact ⟨rfl, taken⟩
    · cases refused

/-- What a registry answers to one of its keys. -/
structure AnswersToKey (registry : Registry) (key : String) : Prop where
  fixed : Text.uppercase key = key
  contained : registry.contains key = true
  found_iff :
    (∃ command, registry.lookup key = .ok command) ↔ (key.length : Int) ≤ registry.limit
  found :
    (key.length : Int) ≤ registry.limit →
      ∃ command ∈ registry.commands, command.key = key ∧ registry.lookup key = .ok command
  tooLong :
    registry.limit < key.length →
      registry.lookup key = .error (.nameTooLong key registry.limit)

theorem answersToKey
    {registry : Registry}
    {key : String}
    (isKey : key ∈ registry.keys) :
    registry.AnswersToKey key := by
  obtain ⟨command, held, sameKey, looked⟩ := exists_lookup_of_mem_keys isKey
  have found (short : (key.length : Int) ≤ registry.limit) : registry.lookup key = .ok command := by
    rw [looked, if_neg (Int.not_lt.mpr short)]
  exact {
    fixed := uppercase_of_mem_keys isKey
    contained := contains_of_mem_keys isKey
    found_iff := by
      constructor
      · rintro ⟨other, foundOther⟩
        exact ((registry.answersFromHeld.found key other).mp foundOther).1
      · intro short
        exact ⟨command, found short⟩
    found := fun short => ⟨command, held, sameKey, found short⟩
    tooLong := (registry.answersFromHeld.tooLong key).mpr
  }

/--
Upper-casing is idempotent and distributes over concatenation. So whatever
registrations are attempted on an empty registry, it contains every key it
holds, and every name that it reports as a duplicate is the upper-cased name of
the refused command and one of these keys. Such a name is looked up with success
exactly if it is within the limit itself.
-/
theorem keys_are_fixed_points :
    (∀ name, Text.uppercase (Text.uppercase name) = Text.uppercase name) ∧
      (∀ first second,
        Text.uppercase (first ++ second) = Text.uppercase first ++ Text.uppercase second) ∧
      ∀ (limit : Int) (attempts : List Command),
        let registry := ({ limit := limit } : Registry).registerEach attempts
        registry.limit = limit ∧
          (∀ key ∈ registry.keys, registry.AnswersToKey key) ∧
          ∀ command reported,
            registry.register command = .error (.duplicateCommand reported) →
              reported = Text.uppercase command.name ∧
                reported ∈ registry.keys ∧
                registry.AnswersToKey reported := by
  refine ⟨Text.uppercase_uppercase, Text.uppercase_append, ?_⟩
  intro limit attempts registry
  refine ⟨limit_registerEach _ _, fun key isKey => answersToKey isKey, ?_⟩
  intro command reported refused
  obtain ⟨isKeyOfCommand, isKey⟩ := mem_keys_of_duplicate refused
  exact ⟨isKeyOfCommand, isKey, answersToKey isKey⟩

/-- A duplicate is reported with a name that is contained, but too long to be looked up. -/
theorem keys_are_fixed_points_beyond_the_limit :
    let fresh (limit : Int) : Registry := { limit := limit }
    let registry := (fresh 6).registerEach [{ name := "Straße" }, { name := "get" }]
    registry.register { name := "straße" } = .error (.duplicateCommand "STRASSE") ∧
      registry.contains "STRASSE" = true ∧
      registry.lookup "STRASSE" = .error (.nameTooLong "STRASSE" 6) ∧
      registry.register { name := "Get" } = .error (.duplicateCommand "GET") ∧
      registry.lookup "GET" = .ok { name := "get" } := by
  intro fresh registry
  have evaluated :
      registry.register { name := "straße" } = .error (.duplicateCommand "STRASSE") ∧
        registry.register { name := "Get" } = .error (.duplicateCommand "GET") ∧
        registry.commands = [{ name := "Straße" }, { name := "get" }] ∧
        Command.key { name := "Straße" } ≠ "GET" := by
    decide +kernel
  obtain ⟨longRefused, shortRefused, commands, otherKey⟩ := evaluated
  obtain ⟨_, _, ofLimit⟩ := keys_are_fixed_points
  obtain ⟨sameLimit, _, reports⟩ := ofLimit 6 [{ name := "Straße" }, { name := "get" }]
  obtain ⟨_, _, long⟩ := reports _ _ longRefused
  obtain ⟨_, _, short⟩ := reports _ _ shortRefused
  have tooLong := long.tooLong (by rw [sameLimit]; decide)
  rw [sameLimit] at tooLong
  obtain ⟨command, held, sameKey, found⟩ := short.found (by rw [sameLimit]; decide)
  have isGet : command = { name := "get" } := by
    have held : command ∈ registry.commands := held
    rw [commands, List.mem_cons, List.mem_singleton] at held
    rcases held with rfl | rfl
    · exact absurd sameKey otherKey
    · rfl
  exact ⟨longRefused, long.contained, tooLong, shortRefused, isGet ▸ found⟩

end CommandConsole.Registry
