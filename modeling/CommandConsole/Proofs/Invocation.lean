import CommandConsole.Invocation
import CommandConsole.Proofs.Script

namespace CommandConsole.Invocation

/-!
# Outcomes of finding an invocation

What the outcome of binding parameters and of a whole line is, by the outcomes
of their parts.
-/

/-- What bound arguments come to, by the words that are left behind them. -/
def settled
    (commandName : String)
    (bound : List String × List Line.Word) :
    Except Fault (List String) :=
  match bound.2 with
  | [] =>
      .ok bound.1
  | word :: _ =>
      .error (.unexpectedParameter commandName (String.ofList word.text))

section Binding

variable {store : Variables} {commandName : String}
variable {parameter : Parameter} {parameters : List Parameter}

theorem outcome_readArgument_of_span
    {word : Line.Word}
    (quotable : parameter.quotable = true)
    (opens : Line.Span.opens (wordValue store parameter word) = true)
    (following : List Line.Word) :
    (readArgument store parameter word following).outcome =
      .ok (String.ofList (Line.Span.read (wordValue store parameter word) following).value,
        (Line.Span.read (wordValue store parameter word) following).rest) := by
  simp [readArgument, quotable, opens]

theorem outcome_readArgument_of_word
    {word : Line.Word}
    (plain : (parameter.quotable && Line.Span.opens (wordValue store parameter word)) = false)
    (following : List Line.Word) :
    (readArgument store parameter word following).outcome =
      .ok (String.ofList (wordValue store parameter word), following) := by
  simp only [readArgument, plain]
  rfl

@[simp] theorem outcome_bindParameters_nil (words : List Line.Word) :
    (bindParameters store commandName [] words).outcome = .ok ([], words) :=
  rfl

/-- A parameter that is optional is bound to the empty text at the end of the line. -/
theorem outcome_bindParameters_of_absent (optional : parameter.optional = true) :
    (bindParameters store commandName (parameter :: parameters) []).outcome =
      (bindParameters store commandName parameters []).outcome.map
        fun bound => ("" :: bound.1, bound.2) := by
  simp only [bindParameters, optional, ↓reduceIte, Script.outcome_bind]
  cases (bindParameters store commandName parameters []).outcome <;> rfl

theorem outcome_bindParameters_of_missing (required : parameter.optional = false) :
    (bindParameters store commandName (parameter :: parameters) []).outcome =
      .error (.missingParameter commandName parameter.name) := by
  simp [bindParameters, required]

/-- A parameter takes its words, and the other parameters are bound to those it leaves. -/
theorem outcome_bindParameters_of_taken
    {word : Line.Word}
    {following rest : List Line.Word}
    {argument : String}
    (taken : (readArgument store parameter word following).outcome = .ok (argument, rest)) :
    (bindParameters store commandName (parameter :: parameters) (word :: following)).outcome =
      (bindParameters store commandName parameters rest).outcome.map
        fun bound => (argument :: bound.1, bound.2) := by
  simp only [bindParameters, Script.outcome_bind, taken]
  show (bindParameters store commandName parameters rest).outcome >>= _ = _
  cases (bindParameters store commandName parameters rest).outcome <;> rfl

/-- An argument in front of others does not change what is left behind them. -/
theorem settled_map_cons
    (argument : String)
    (outcome : Except Fault (List String × List Line.Word)) :
    (outcome.map fun bound => (argument :: bound.1, bound.2)).bind (settled commandName) =
      (outcome.bind (settled commandName)).map fun arguments => argument :: arguments := by
  cases outcome with
  | error fault =>
      rfl
  | ok bound =>
      obtain ⟨arguments, left⟩ := bound
      cases left <;> rfl

/-- Arguments that come out behind another one were bound without it. -/
theorem exists_of_map_cons
    {outcome : Except Fault (List String × List Line.Word)}
    {argument : String}
    {arguments : List String}
    {left : List Line.Word}
    (mapped : (outcome.map fun bound => (argument :: bound.1, bound.2)) = .ok (arguments, left)) :
    ∃ others, outcome = .ok (others, left) ∧ arguments = argument :: others := by
  cases outcome with
  | error fault =>
      exact nomatch mapped
  | ok bound =>
      obtain ⟨rfl, rfl⟩ := Prod.mk.inj (Except.ok.inj mapped)
      exact ⟨bound.1, rfl, rfl⟩

/-- Parameters that are all optional are bound to empty texts at the end of the line. -/
theorem outcome_bindParameters_of_all_optional
    (optional : ∀ parameter ∈ parameters, parameter.optional = true) :
    (bindParameters store commandName parameters []).outcome =
      .ok (List.replicate parameters.length "", []) := by
  induction parameters with
  | nil =>
      rfl
  | cons parameter parameters inductionHypothesis =>
      simp only [List.mem_cons, forall_eq_or_imp] at optional
      rw [outcome_bindParameters_of_absent optional.1, inductionHypothesis optional.2]
      rfl

/-- Every parameter is bound to one argument. -/
theorem length_of_bindParameters
    {words left : List Line.Word}
    {arguments : List String}
    (bound : (bindParameters store commandName parameters words).outcome = .ok (arguments, left)) :
    arguments.length = parameters.length := by
  induction parameters generalizing words arguments with
  | nil =>
      obtain ⟨rfl, _⟩ := Prod.mk.inj (Except.ok.inj bound)
      rfl
  | cons parameter parameters inductionHypothesis =>
      cases words with
      | nil =>
          cases optional : parameter.optional with
          | true =>
              rw [outcome_bindParameters_of_absent optional] at bound
              obtain ⟨others, behind, rfl⟩ := exists_of_map_cons bound
              rw [List.length_cons, inductionHypothesis behind, List.length_cons]
          | false =>
              rw [outcome_bindParameters_of_missing optional] at bound
              exact nomatch bound
      | cons word following =>
          cases taken : (readArgument store parameter word following).outcome with
          | error fault =>
              unfold readArgument at taken
              dsimp only at taken
              split at taken <;> exact nomatch taken
          | ok read =>
              rw [outcome_bindParameters_of_taken taken] at bound
              obtain ⟨others, behind, rfl⟩ := exists_of_map_cons bound
              rw [List.length_cons, inductionHypothesis behind, List.length_cons]

end Binding

section Line

variable {registry : Registry} {store : Variables} {line : String}
variable {first : Line.Word} {following : List Line.Word}

theorem outcome_ofLine?_of_blank (blank : Line.words line = []) :
    (ofLine? registry store line).outcome = .ok none := by
  simp [ofLine?, blank]

theorem outcome_ofLine?_of_not_found
    {fault : Fault}
    (shape : Line.words line = first :: following)
    (missing : registry.lookup (String.ofList first.text) = .error fault) :
    (ofLine? registry store line).outcome = .error fault := by
  simp only [ofLine?, shape, Script.outcome_map, ofWords, Script.outcome_bind,
    Script.outcome_ofExcept, missing]
  rfl

variable {command : Command}

/-- What becomes of a line whose command is found, by the words that its binding leaves. -/
theorem outcome_ofLine?_of_found
    (shape : Line.words line = first :: following)
    (found : registry.lookup (String.ofList first.text) = .ok command) :
    (ofLine? registry store line).outcome =
      ((bindParameters store command.name command.parameters following).outcome.bind
        (settled command.name)).map fun arguments => some ⟨command, arguments⟩ := by
  simp only [ofLine?, shape, Script.outcome_map, ofWords, Script.outcome_bind,
    Script.outcome_ofExcept, found]
  show (fun invocation => some invocation) <$>
    ((bindParameters store command.name command.parameters following).outcome >>= _) = _
  cases (bindParameters store command.name command.parameters following).outcome with
  | error fault =>
      rfl
  | ok bound =>
      obtain ⟨arguments, left⟩ := bound
      cases left <;> rfl

/-- A line that leaves no word is the invocation of its command with the bound arguments. -/
theorem outcome_ofLine?_of_bound
    {arguments : List String}
    (shape : Line.words line = first :: following)
    (found : registry.lookup (String.ofList first.text) = .ok command)
    (bound : (bindParameters store command.name command.parameters following).outcome =
      .ok (arguments, [])) :
    (ofLine? registry store line).outcome = .ok (some ⟨command, arguments⟩) := by
  rw [outcome_ofLine?_of_found shape found, bound]
  rfl

theorem outcome_ofLine?_of_left_over
    {arguments : List String}
    {word : Line.Word}
    {rest : List Line.Word}
    (shape : Line.words line = first :: following)
    (found : registry.lookup (String.ofList first.text) = .ok command)
    (bound : (bindParameters store command.name command.parameters following).outcome =
      .ok (arguments, word :: rest)) :
    (ofLine? registry store line).outcome =
      .error (.unexpectedParameter command.name (String.ofList word.text)) := by
  rw [outcome_ofLine?_of_found shape found, bound]
  rfl

/-- A line that comes to an invocation names its command and leaves no word behind its arguments. -/
theorem exists_of_outcome_ofLine?
    {invocation : Invocation}
    (found : (ofLine? registry store line).outcome = .ok (some invocation)) :
    ∃ first following,
      Line.words line = first :: following ∧
        registry.lookup (String.ofList first.text) = .ok invocation.command ∧
        (bindParameters store invocation.command.name invocation.command.parameters
          following).outcome = .ok (invocation.arguments, []) := by
  cases shape : Line.words line with
  | nil =>
      rw [outcome_ofLine?_of_blank shape] at found
      exact nomatch found
  | cons first following =>
      cases named : registry.lookup (String.ofList first.text) with
      | error fault =>
          rw [outcome_ofLine?_of_not_found shape named] at found
          exact nomatch found
      | ok command =>
          rw [outcome_ofLine?_of_found shape named] at found
          cases bound :
              (bindParameters store command.name command.parameters following).outcome with
          | error fault =>
              rw [bound] at found
              exact nomatch found
          | ok result =>
              obtain ⟨arguments, left⟩ := result
              rw [bound] at found
              cases left with
              | cons word rest =>
                  exact nomatch found
              | nil =>
                  obtain rfl := Option.some.inj (Except.ok.inj found)
                  exact ⟨first, following, rfl, named, bound⟩

end Line

end CommandConsole.Invocation
