import CommandConsole.Proofs.Invocation
import CommandConsole.Proofs.Line.Enclosed
import CommandConsole.Proofs.Playback
import CommandConsole.Proofs.Registration
import CommandConsole.Proofs.Variables

namespace CommandConsole

/-!
# Lines with quoted arguments

A line that gives each argument between double quotes is read back as these
arguments, whatever blanks stand around them. What a quote cannot carry is a
value with a double quote directly in front of a blank.
-/

namespace Line

/-- An argument as it is typed between quotes: the blanks in front of it and its value. -/
structure QuotedArgument where
  gap : List Char
  value : String
  gapNonempty : gap ≠ []
  gapBlank : ∀ character ∈ gap, Text.isBlank character = true

namespace QuotedArgument

/-- An argument between quotes behind one space. -/
def spaced (value : String) : QuotedArgument where
  gap :=
    [' ']
  value :=
    value
  gapNonempty :=
    List.cons_ne_nil _ _
  gapBlank :=
    List.forall_mem_singleton.mpr (by decide)

/-- The characters of an argument in a line. -/
def spelled (argument : QuotedArgument) : List Char :=
  argument.gap ++ enclosed argument.value.toList

/-- The word that a parameter sees of an argument. -/
def opening (argument : QuotedArgument) : String :=
  String.ofList (firstWord (enclosed argument.value.toList))

/-- Arguments in front of a text that ends a word end a word themselves. -/
theorem endsWord_spelled
    {rest : List Char}
    (endsWord : EndsWord rest)
    (arguments : List QuotedArgument) :
    EndsWord (arguments.flatMap spelled ++ rest) := by
  cases arguments with
  | nil =>
      exact endsWord
  | cons argument arguments =>
      obtain ⟨character, others, gap⟩ := List.exists_cons_of_ne_nil argument.gapNonempty
      have blank := argument.gapBlank character (by simp [gap])
      simpa [spelled, gap] using endsWord_cons blank _

end QuotedArgument

/-- The line of a name and quoted arguments between blanks. -/
def quoting
    (leading : List Char)
    (name : String)
    (arguments : List QuotedArgument)
    (trailing : List Char) :
    String :=
  String.ofList
    (leading ++ (name.toList ++ (arguments.flatMap QuotedArgument.spelled ++ trailing)))

/-- The first word of a line with quoted arguments is its name. -/
theorem words_quoting
    {leading trailing : List Char}
    {name : String}
    (leadingBlank : ∀ character ∈ leading, Text.isBlank character = true)
    (trailingBlank : ∀ character ∈ trailing, Text.isBlank character = true)
    (named : name ≠ "")
    (noBlank : ∀ character ∈ name.toList, Text.isBlank character = false)
    (arguments : List QuotedArgument) :
    words (quoting leading name arguments trailing) =
      ⟨leading, name.toList⟩ ::
        wordsOf (arguments.flatMap QuotedArgument.spelled ++ trailing) := by
  have endsWord :=
    QuotedArgument.endsWord_spelled (endsWord_of_blank trailingBlank) arguments
  have nonempty : name.toList ≠ [] := by
    simpa using named
  have nameFirst := wordsOf_append_of_endsWord noBlank nonempty endsWord
  rw [quoting, words_ofList, wordsOf_blank_append leadingBlank nameFirst, List.append_nil]

end Line

namespace Invocation

open Line

variable {store : Variables}

/-- An argument between quotes is read as its value by a parameter that sees the quotes. -/
theorem exists_readArgument_enclosed
    {parameter : Parameter}
    {gap value rest : List Char}
    (quotable : parameter.quotable = true)
    (unresolved : parameter.resolves = true →
      store.get? (String.ofList (firstWord (enclosed value))) = none)
    (blankGap : ∀ character ∈ gap, Text.isBlank character = true)
    (enclosable : Enclosable value)
    (endsWord : EndsWord rest) :
    ∃ word following,
      wordsOf (gap ++ (enclosed value ++ rest)) = word :: following ∧
        (readArgument store parameter word following).outcome =
          .ok (String.ofList value, wordsOf rest) := by
  obtain ⟨following, size, shape, spanRead⟩ := read_enclosed enclosable endsWord
  have seen :
      wordValue store parameter ⟨gap, firstWord (enclosed value)⟩ =
        firstWord (enclosed value) := by
    cases resolves : parameter.resolves with
    | false =>
        simp [wordValue, resolves]
    | true =>
        simp [wordValue, resolves, Variables.resolve, unresolved resolves]
  have opens : Span.opens (firstWord (enclosed value)) = true := by
    simp [Span.opens, firstWord, enclosed, isBlank_quotationMark]
  refine ⟨⟨gap, firstWord (enclosed value)⟩, following, ?_, ?_⟩
  · rw [wordsOf_blank_append blankGap shape, List.append_nil]
  · rw [← seen] at opens
    rw [outcome_readArgument_of_span quotable opens, seen, spanRead]

/-- Quoted arguments are bound to the first parameters, and the others to what follows them. -/
theorem outcome_bindParameters_quoted
    {commandName : String}
    {parameters : List Parameter}
    {arguments : List QuotedArgument}
    {rest : List Char}
    {values : List String}
    {left : List Word}
    (quotable : ∀ parameter ∈ parameters, parameter.quotable = true)
    (fits : arguments.length ≤ parameters.length)
    (unresolved : ∀ pair ∈ parameters.zip arguments,
      pair.1.resolves = true → store.get? pair.2.opening = none)
    (enclosable : ∀ argument ∈ arguments, Enclosable argument.value.toList)
    (endsWord : EndsWord rest)
    (bound : (bindParameters store commandName (parameters.drop arguments.length)
      (wordsOf rest)).outcome = .ok (values, left)) :
    (bindParameters store commandName parameters
      (wordsOf (arguments.flatMap QuotedArgument.spelled ++ rest))).outcome =
        .ok (arguments.map QuotedArgument.value ++ values, left) := by
  induction arguments generalizing parameters with
  | nil =>
      exact bound
  | cons argument arguments inductionHypothesis =>
      cases parameters with
      | nil =>
          simp at fits
      | cons parameter parameters =>
          simp only [List.mem_cons, forall_eq_or_imp, List.zip_cons_cons]
            at quotable unresolved enclosable
          obtain ⟨word, following, shape, taken⟩ :=
            exists_readArgument_enclosed quotable.1 unresolved.1 argument.gapBlank enclosable.1
              (QuotedArgument.endsWord_spelled endsWord arguments)
          have later := inductionHypothesis quotable.2
            (Nat.le_of_succ_le_succ fits) unresolved.2 enclosable.2 bound
          rw [List.flatMap_cons, QuotedArgument.spelled, List.append_assoc, List.append_assoc,
            shape, outcome_bindParameters_of_taken taken, later]
          simp [Except.map]

/-- A line whose quoted arguments are all enclosable is the invocation with their values. -/
theorem outcome_ofLine?_quoting
    {registry : Registry}
    {command : Command}
    {name : String}
    {leading trailing : List Char}
    {arguments : List QuotedArgument}
    (found : registry.lookup name = .ok command)
    (quotable : ∀ parameter ∈ command.parameters, parameter.quotable = true)
    (named : name ≠ "")
    (noBlank : ∀ character ∈ name.toList, Text.isBlank character = false)
    (leadingBlank : ∀ character ∈ leading, Text.isBlank character = true)
    (trailingBlank : ∀ character ∈ trailing, Text.isBlank character = true)
    (fits : arguments.length ≤ command.parameters.length)
    (optional : ∀ parameter ∈ command.parameters.drop arguments.length,
      parameter.optional = true)
    (unresolved : ∀ pair ∈ command.parameters.zip arguments,
      pair.1.resolves = true → store.get? pair.2.opening = none)
    (enclosable : ∀ argument ∈ arguments, Enclosable argument.value.toList) :
    (ofLine? registry store (quoting leading name arguments trailing)).outcome =
      .ok (some ⟨command, arguments.map QuotedArgument.value ++
        List.replicate (command.parameters.length - arguments.length) ""⟩) := by
  rw [← String.ofList_toList (s := name)] at found
  apply outcome_ofLine?_of_bound
    (words_quoting leadingBlank trailingBlank named noBlank arguments) found
  apply outcome_bindParameters_quoted quotable fits unresolved enclosable
    (endsWord_of_blank trailingBlank)
  rw [wordsOf_of_blank trailingBlank, outcome_bindParameters_of_all_optional optional,
    List.length_drop]

/-- A double quote in front of a blank ends the span of a value, and a word of it is left over. -/
theorem exists_left_over_of_not_enclosable
    {commandName : String}
    {parameter : Parameter}
    {argument : QuotedArgument}
    {trailing : List Char}
    (quotable : parameter.quotable = true)
    (unresolved : parameter.resolves = true → store.get? argument.opening = none)
    (notEnclosable : ¬ Enclosable argument.value.toList)
    (trailingBlank : ∀ character ∈ trailing, Text.isBlank character = true) :
    ∃ before blank after word rest,
      argument.value.toList = before ++ quotationMark :: blank :: after ∧
        Text.isBlank blank = true ∧
        word.text = firstWord (after ++ [quotationMark]) ∧
        (bindParameters store commandName [parameter]
          (wordsOf (argument.spelled ++ trailing))).outcome =
            .ok ([String.ofList before], word :: rest) := by
  obtain ⟨before, blank, after, shape, isBlank, enclosable⟩ :=
    exists_quote_before_blank notEnclosable
  have parts :
      enclosed argument.value.toList =
        enclosed before ++ blank :: (after ++ [quotationMark]) := by
    simp [enclosed, shape]
  have sameOpening : firstWord (enclosed argument.value.toList) = firstWord (enclosed before) := by
    rw [parts]
    exact firstWord_append (by simp [enclosed]) isBlank_quotationMark (endsWord_cons isBlank _)
  have seen : parameter.resolves = true →
      store.get? (String.ofList (firstWord (enclosed before))) = none := by
    rw [← sameOpening]
    exact unresolved
  obtain ⟨opening, following, spanShape, taken⟩ :=
    exists_readArgument_enclosed quotable seen argument.gapBlank enclosable
      (endsWord_cons isBlank (after ++ [quotationMark] ++ trailing))
  obtain ⟨word, rest, leftShape⟩ :
      ∃ word rest, wordsOf (blank :: (after ++ [quotationMark] ++ trailing)) = word :: rest :=
    exists_wordsOf (by simp) isBlank_quotationMark
  refine ⟨before, blank, after, word, rest, shape, isBlank, ?_, ?_⟩
  · rw [text_eq_firstWord leftShape, firstWord_cons_of_blank isBlank]
    exact firstWord_append (by simp) isBlank_quotationMark (endsWord_of_blank trailingBlank)
  · rw [QuotedArgument.spelled, parts, List.append_assoc, List.append_assoc, List.cons_append,
      spanShape, outcome_bindParameters_of_taken taken, leftShape]
    rfl

/--
Where all parameters get quoted values and only the last value has a double
quote in front of a blank, the line is refused for the first word behind it.
-/
theorem exists_refused_of_not_enclosable
    {registry : Registry}
    {command : Command}
    {name : String}
    {leading trailing : List Char}
    {earlier : List QuotedArgument}
    {last : QuotedArgument}
    (found : registry.lookup name = .ok command)
    (quotable : ∀ parameter ∈ command.parameters, parameter.quotable = true)
    (named : name ≠ "")
    (noBlank : ∀ character ∈ name.toList, Text.isBlank character = false)
    (leadingBlank : ∀ character ∈ leading, Text.isBlank character = true)
    (trailingBlank : ∀ character ∈ trailing, Text.isBlank character = true)
    (full : (earlier ++ [last]).length = command.parameters.length)
    (unresolved : ∀ pair ∈ command.parameters.zip (earlier ++ [last]),
      pair.1.resolves = true → store.get? pair.2.opening = none)
    (enclosable : ∀ argument ∈ earlier, Enclosable argument.value.toList)
    (notEnclosable : ¬ Enclosable last.value.toList) :
    ∃ before blank after,
      last.value.toList = before ++ quotationMark :: blank :: after ∧
        Text.isBlank blank = true ∧
        (ofLine? registry store
          (quoting leading name (earlier ++ [last]) trailing)).outcome =
            .error (.unexpectedParameter command.name
              (String.ofList (firstWord (after ++ [quotationMark])))) := by
  obtain ⟨parameters, parameter, declared, sameLength⟩ :
      ∃ parameters parameter,
        command.parameters = parameters ++ [parameter] ∧
          parameters.length = earlier.length := by
    rcases List.eq_nil_or_concat' command.parameters with
      none | ⟨parameters, parameter, declared⟩
    · simp [none] at full
    · exact ⟨parameters, parameter, declared, by simpa [declared] using full.symm⟩
  rw [declared, List.zip_append sameLength] at unresolved
  obtain ⟨before, blank, after, word, rest, lastShape, isBlank, wordText, left⟩ :=
    exists_left_over_of_not_enclosable
      (quotable parameter (by simp [declared]))
      (unresolved (parameter, last) (by simp))
      notEnclosable trailingBlank
  refine ⟨before, blank, after, lastShape, isBlank, ?_⟩
  rw [← String.ofList_toList (s := name)] at found
  rw [← wordText]
  apply outcome_ofLine?_of_left_over
    (words_quoting leadingBlank trailingBlank named noBlank _) found
  rw [List.flatMap_append, List.flatMap_singleton, List.append_assoc, declared]
  apply outcome_bindParameters_quoted
  · rwa [← declared]
  · simp [sameLength]
  · intro pair member
    have sameZip :
        (parameters ++ [parameter]).zip (earlier ++ []) =
          parameters.zip earlier ++ [parameter].zip [] :=
      List.zip_append sameLength
    rw [List.append_nil, List.zip_nil_right, List.append_nil] at sameZip
    exact unresolved pair (List.mem_append_left _ (sameZip ▸ member))
  · exact enclosable
  · simpa using QuotedArgument.endsWord_spelled (endsWord_of_blank trailingBlank) [last]
  · rw [← sameLength, List.drop_left]
    exact left

end Invocation

namespace Session

open Line

/--
Quoting is undone by parsing. A line that names a command and gives values
between double quotes, whatever blanks stand between them, is parsed to the
command with exactly these values and with the empty text for the optional
parameters behind them, provided that no value has a double quote directly in
front of a blank. Where only the value of the last parameter has one, the line
is refused for the first word behind that quote.
-/
theorem parse_quoting
    {session : Session}
    {command : Command}
    {name : String}
    {leading trailing : List Char}
    {arguments : List QuotedArgument}
    (found : session.registry.lookup name = .ok command)
    (quotable : ∀ parameter ∈ command.parameters, parameter.quotable = true)
    (named : name ≠ "")
    (noBlank : ∀ character ∈ name.toList, Text.isBlank character = false)
    (leadingBlank : ∀ character ∈ leading, Text.isBlank character = true)
    (trailingBlank : ∀ character ∈ trailing, Text.isBlank character = true)
    (fits : arguments.length ≤ command.parameters.length)
    (optional : ∀ parameter ∈ command.parameters.drop arguments.length,
      parameter.optional = true)
    (unresolved : ∀ pair ∈ command.parameters.zip arguments,
      pair.1.resolves = true → session.store.contains pair.2.opening = false)
    (undisturbed : session.Undisturbed
      (Invocation.ofLine? session.registry session.store
        (quoting leading name arguments trailing)).pollCount) :
    ((∀ argument ∈ arguments, Enclosable argument.value.toList) →
      (session.parse (quoting leading name arguments trailing)).outcome =
        .ok (some ⟨command, arguments.map QuotedArgument.value ++
          List.replicate (command.parameters.length - arguments.length) ""⟩)) ∧
    (∀ earlier last,
      arguments = earlier ++ [last] →
      arguments.length = command.parameters.length →
      (∀ argument ∈ earlier, Enclosable argument.value.toList) →
      ¬ Enclosable last.value.toList →
      ∃ before blank after,
        last.value.toList = before ++ quotationMark :: blank :: after ∧
          Text.isBlank blank = true ∧
          (session.parse (quoting leading name arguments trailing)).outcome =
            .error (.unexpectedParameter command.name
              (String.ofList (firstWord (after ++ [quotationMark]))))) := by
  have absent : ∀ pair ∈ command.parameters.zip arguments,
      pair.1.resolves = true → session.store.get? pair.2.opening = none :=
    fun pair member resolves =>
      Variables.get?_eq_none_of_not_contains (unresolved pair member resolves)
  rw [outcome_parse_of_undisturbed undisturbed]
  constructor
  · intro enclosable
    exact Invocation.outcome_ofLine?_quoting found quotable named noBlank leadingBlank
      trailingBlank fits optional absent enclosable
  · rintro earlier last rfl full enclosable notEnclosable
    exact Invocation.exists_refused_of_not_enclosable found quotable named noBlank leadingBlank
      trailingBlank full absent enclosable notEnclosable

/-- A name with a blank and a value with quotes are kept; a quote in front of a blank is refused. -/
theorem parse_quoting_of_set :
    let session : Session :=
      { offeringBuiltins 32 256 with
        store := ({} : Variables).set "say" "1" }
    (session.parse " set \"two words\" \"say \"\"hi\"\"\" ").outcome =
        .ok (some ⟨Builtin.set.command, ["two words", "say \"\"hi\"\""]⟩) ∧
      ∃ before blank after,
        "a\" b".toList = before ++ quotationMark :: blank :: after ∧
          Text.isBlank blank = true ∧
          (session.parse "SET \"x\" \"a\" b\"").outcome =
            .error (.unexpectedParameter "SET"
              (String.ofList (firstWord (after ++ [quotationMark])))) := by
  intro session
  have evaluated :
      session.registry.lookup "set" = .ok Builtin.set.command ∧
        session.registry.lookup "SET" = .ok Builtin.set.command ∧
        session.stop = .lowered ∧
        session.alarm = none := by
    decide +kernel
  obtain ⟨foundLower, foundUpper, lowered, noAlarm⟩ := evaluated
  have undisturbed := undisturbed_of_no_alarm lowered noAlarm
  have spaceBlank : ∀ character ∈ [' '], Text.isBlank character = true :=
    List.forall_mem_singleton.mpr (by decide)
  obtain ⟨kept, _⟩ := @parse_quoting session Builtin.set.command "set" [' '] [' ']
    [.spaced "two words", .spaced "say \"\"hi\"\""] foundLower (by decide) (by decide)
    (forall_not_blank_of_all (by decide)) spaceBlank spaceBlank (by decide) (by decide)
    (by decide) (undisturbed _)
  obtain ⟨_, refused⟩ := @parse_quoting session Builtin.set.command "SET" [] []
    [.spaced "x", .spaced "a\" b"] foundUpper (by decide) (by decide)
    (forall_not_blank_of_all (by decide)) (by simp) (by simp) (by decide) (by decide)
    (by decide) (undisturbed _)
  have keptLine :
      quoting [' '] "set" [.spaced "two words", .spaced "say \"\"hi\"\""] [' '] =
        " set \"two words\" \"say \"\"hi\"\"\" " := by
    decide
  have refusedLine :
      quoting [] "SET" [.spaced "x", .spaced "a\" b"] [] = "SET \"x\" \"a\" b\"" := by
    decide
  rw [keptLine] at kept
  rw [refusedLine] at refused
  have refusedLast :=
    refused [.spaced "x"] (.spaced "a\" b") rfl rfl (by decide) (by decide)
  exact ⟨kept (by decide), refusedLast⟩

end Session

end CommandConsole
