import CommandConsole.Proofs.Invocation
import CommandConsole.Proofs.Line.Spans
import CommandConsole.Proofs.Line.Tokens
import CommandConsole.Proofs.Playback
import CommandConsole.Proofs.Registration

namespace CommandConsole.Grammar

open Line

/-!
# The grammar of command lines

A reading of a line in terms of its tokens and of their offsets: the first
token names the command, and the others are cut into consecutive groups, one
for each declared parameter. Parsing comes to an outcome exactly where the
grammar derives it.
-/

/-- The value that a parameter starts from: the text of a token or the variable it names. -/
def startingValue (store : Variables) (parameter : Parameter) (token : Token) : String :=
  if parameter.resolves then
    store.resolve token.text
  else
    token.text

/-- Whether a text ends with a double quote. -/
def EndsWithQuote (text : List Char) : Prop :=
  text.getLast? = some quotationMark

/--
How a parameter takes a group of tokens in front of the rest of a line, and the
value that it is bound to.
-/
inductive Group (store : Variables) (line : String) (parameter : Parameter) :
    List Token → List Token → String → Prop where
  /-- A value that opens no span is one token. -/
  | plain
      {token : Token}
      (rest : List Token)
      (noSpan : parameter.quotable = false ∨
        (startingValue store parameter token).toList.head? ≠ some quotationMark) :
      Group store line parameter [token] rest (startingValue store parameter token)
  /-- A value between quotes of its own is one token. -/
  | alone
      {token : Token}
      {inner : List Char}
      (rest : List Token)
      (quotable : parameter.quotable = true)
      (value : (startingValue store parameter token).toList =
        quotationMark :: (inner ++ [quotationMark])) :
      Group store line parameter [token] rest (String.ofList inner)
  /-- A span extends to the first token that ends with a quote and keeps the spacing. -/
  | closed
      {token closing : Token}
      {between : List Token}
      {tail : List Char}
      (rest : List Token)
      (quotable : parameter.quotable = true)
      (value : (startingValue store parameter token).toList = quotationMark :: tail)
      (opening : ¬ EndsWithQuote tail)
      (inner : ∀ token ∈ between, ¬ EndsWithQuote token.text.toList)
      (last : EndsWithQuote closing.text.toList) :
      Group store line parameter (token :: (between ++ [closing])) rest
        (String.ofList (tail ++ slice line token.stop (closing.stop - 1)))
  /-- A span that no token closes takes the rest of the line but for the blanks at its end. -/
  | unclosed
      {token : Token}
      {between : List Token}
      {tail : List Char}
      (quotable : parameter.quotable = true)
      (value : (startingValue store parameter token).toList = quotationMark :: tail)
      (opening : ¬ EndsWithQuote tail)
      (inner : ∀ token ∈ between, ¬ EndsWithQuote token.text.toList) :
      Group store line parameter (token :: between) []
        (String.ofList (tail ++ Text.trimEnd (line.toList.drop token.stop)))

/-- What the tokens behind a command's name come to as arguments of its parameters. -/
inductive Binding (store : Variables) (line commandName : String) :
    List Parameter → List Token → Except Fault (List String) → Prop where
  /-- All parameters are bound and all tokens are taken. -/
  | complete :
      Binding store line commandName [] [] (.ok [])
  /-- A token is left over. -/
  | leftOver
      (token : Token)
      (rest : List Token) :
      Binding store line commandName [] (token :: rest)
        (.error (.unexpectedParameter commandName token.text))
  /-- An optional parameter behind the last token is the empty text. -/
  | absent
      {parameter : Parameter}
      {parameters : List Parameter}
      {outcome : Except Fault (List String)}
      (optional : parameter.optional = true)
      (others : Binding store line commandName parameters [] outcome) :
      Binding store line commandName (parameter :: parameters) []
        (outcome.map fun arguments => "" :: arguments)
  /-- A required parameter is behind the last token. -/
  | missing
      {parameter : Parameter}
      (parameters : List Parameter)
      (required : parameter.optional = false) :
      Binding store line commandName (parameter :: parameters) []
        (.error (.missingParameter commandName parameter.name))
  /-- A parameter takes a group of tokens, and the others are bound to the rest. -/
  | taken
      {parameter : Parameter}
      {parameters : List Parameter}
      {group rest : List Token}
      {argument : String}
      {outcome : Except Fault (List String)}
      (first : Group store line parameter group rest argument)
      (others : Binding store line commandName parameters rest outcome) :
      Binding store line commandName (parameter :: parameters) (group ++ rest)
        (outcome.map fun arguments => argument :: arguments)

/-- What a line comes to. -/
inductive Reading (registry : Registry) (store : Variables) (line : String) :
    Except Fault (Option Invocation) → Prop where
  /-- A line without tokens invokes nothing. -/
  | blank
      (tokens : tokenize line = []) :
      Reading registry store line (.ok none)
  /-- The first token names no command. -/
  | notFound
      {first : Token}
      {rest : List Token}
      {fault : Fault}
      (tokens : tokenize line = first :: rest)
      (missing : registry.lookup first.text = .error fault) :
      Reading registry store line (.error fault)
  /-- The first token names a command, and the others are its arguments. -/
  | invoked
      {first : Token}
      {rest : List Token}
      {command : Command}
      {outcome : Except Fault (List String)}
      (tokens : tokenize line = first :: rest)
      (found : registry.lookup first.text = .ok command)
      (bound : Binding store line command.name command.parameters rest outcome) :
      Reading registry store line
        (outcome.map fun arguments => some ⟨command, arguments⟩)

section Parameter

variable {store : Variables} {line : String} {parameter : Parameter}

theorem toList_startingValue
    (store : Variables)
    (parameter : Parameter)
    (offset : Nat)
    (word : Word) :
    (startingValue store parameter (tokenAt offset word)).toList =
      Invocation.wordValue store parameter word := by
  simp only [startingValue, Invocation.wordValue, tokenAt]
  split <;> simp

/-- The tokens of words end with a quote where the words close. -/
theorem unclosed_tokensFrom_iff
    {offset : Nat}
    {words : List Word} :
    (∀ token ∈ tokensFrom offset words, ¬ EndsWithQuote token.text.toList) ↔
      ∀ word ∈ words, word.closes = false :=
  (forall_tokensFrom_iff fun text => ¬ EndsWithQuote text).trans
    (by simp [EndsWithQuote, Word.closes])

/-- A parameter that starts from a quoted value reads a span. -/
theorem outcome_readArgument_of_quoted
    {offset : Nat}
    {word : Word}
    {tail : List Char}
    (quotable : parameter.quotable = true)
    (value : (startingValue store parameter (tokenAt offset word)).toList =
      quotationMark :: tail)
    (following : List Word) :
    (Invocation.readArgument store parameter word following).outcome =
      .ok (String.ofList (Span.read (quotationMark :: tail) following).value,
        (Span.read (quotationMark :: tail) following).rest) := by
  rw [toList_startingValue] at value
  have opens := Span.opens_eq_true_iff.mpr ⟨tail, value⟩
  rw [Invocation.outcome_readArgument_of_span quotable opens, value]

/-- The words that a parameter takes are a group of tokens in front of those it leaves. -/
theorem exists_group_of_words
    {offset : Nat}
    {word : Word}
    {following : List Word}
    (located : Located line offset (word :: following)) :
    ∃ argument taken rest,
      word :: following = taken ++ rest ∧
        (Invocation.readArgument store parameter word following).outcome =
          .ok (argument, rest) ∧
        Group store line parameter (tokensFrom offset taken)
          (tokensFrom (offset + (taken.flatMap Word.spaced).length) rest) argument := by
  have value := toList_startingValue store parameter offset word
  by_cases span :
      (parameter.quotable && Span.opens (Invocation.wordValue store parameter word)) = true
  · obtain ⟨quotable, opens⟩ := (Bool.and_eq_true _ _).mp span
    obtain ⟨tail, quoted⟩ := Span.opens_eq_true_iff.mp opens
    rw [quoted] at value
    have outcome := outcome_readArgument_of_quoted quotable value following
    rcases Span.read_cases tail following with
      ⟨inner, rfl, spanRead⟩ |
        ⟨ends, between, closing, rest, rfl, inner, last, spanRead⟩ |
        ⟨ends, unclosed, spanRead⟩
    · rw [spanRead] at outcome
      refine ⟨String.ofList inner, [word], following, rfl, outcome, ?_⟩
      rw [tokensFrom_cons]
      exact .alone _ quotable value
    · rw [spanRead, List.append_assoc, ← located.tail.slice_eq] at outcome
      refine ⟨_, word :: (between ++ [closing]), rest, by simp, outcome, ?_⟩
      rw [tokensFrom_cons, tokensFrom_append, tokensFrom_cons]
      exact .closed _ quotable value ends (unclosed_tokensFrom_iff.mpr inner)
        (by simpa [EndsWithQuote, Word.closes, tokenAt] using last)
    · rw [spanRead, ← located.tail.trimEnd_drop] at outcome
      refine ⟨_, word :: following, [], by simp, outcome, ?_⟩
      rw [tokensFrom_cons]
      exact .unclosed quotable value ends (unclosed_tokensFrom_iff.mpr unclosed)
  · have outcome := Invocation.outcome_readArgument_of_word
      (Bool.not_eq_true _ ▸ span) following
    rw [← value, String.ofList_toList] at outcome
    refine ⟨_, [word], following, rfl, outcome, ?_⟩
    rw [tokensFrom_cons]
    apply Group.plain
    rw [value]
    by_contra opensSpan
    apply span
    simpa [Span.opens] using opensSpan

/-- A group of tokens in front of others is what a parameter takes of their words. -/
theorem readArgument_of_group
    {offset : Nat}
    {words : List Word}
    {group rest : List Token}
    {argument : String}
    (located : Located line offset words)
    (shape : tokensFrom offset words = group ++ rest)
    (derived : Group store line parameter group rest argument) :
    ∃ word following restOffset restWords,
      words = word :: following ∧
        (Invocation.readArgument store parameter word following).outcome =
          .ok (argument, restWords) ∧
        rest = tokensFrom restOffset restWords ∧
        Located line restOffset restWords := by
  cases words with
  | nil =>
      obtain ⟨rfl, rfl⟩ := List.append_eq_nil_iff.mp shape.symm
      cases derived
  | cons word following =>
      rw [tokensFrom_cons] at shape
      cases derived with
      | plain rest noSpan =>
          obtain ⟨rfl, rfl⟩ := List.cons.inj shape
          have seen := toList_startingValue store parameter offset word
          refine ⟨word, following, _, following, rfl, ?_, rfl, located.tail⟩
          have plain :
              (parameter.quotable &&
                Span.opens (Invocation.wordValue store parameter word)) = false := by
            rw [← seen]
            rcases noSpan with unquotable | first
            · simp [unquotable]
            · simp [Span.opens, first]
          rw [Invocation.outcome_readArgument_of_word plain, ← seen, String.ofList_toList]
      | alone rest quotable value =>
          obtain ⟨rfl, rfl⟩ := List.cons.inj shape
          refine ⟨word, following, _, following, rfl, ?_, rfl, located.tail⟩
          rw [outcome_readArgument_of_quoted quotable value, Span.read_of_closesItself]
      | closed rest quotable value opening inner last =>
          rw [List.cons_append, List.append_assoc] at shape
          obtain ⟨rfl, behind⟩ := List.cons.inj shape
          obtain ⟨between, closingWords, rfl, rfl, closingShape⟩ := tokensFrom_eq_append behind
          cases closingWords with
          | nil =>
              simp [tokensFrom] at closingShape
          | cons closing restWords =>
              rw [tokensFrom_cons] at closingShape
              obtain ⟨rfl, rfl⟩ := List.cons.inj closingShape
              refine ⟨word, between ++ closing :: restWords, _, restWords, rfl, ?_, rfl,
                located.tail.append_right.tail⟩
              have closes : closing.closes = true := by
                simpa [EndsWithQuote, Word.closes, tokenAt] using last
              rw [outcome_readArgument_of_quoted quotable value,
                Span.read_of_closing opening (unclosed_tokensFrom_iff.mp inner) closes,
                List.append_assoc, ← located.tail.slice_eq]
              rfl
      | unclosed quotable value opening inner =>
          rw [List.append_nil] at shape
          obtain ⟨rfl, rfl⟩ := List.cons.inj shape
          have whole : Located line offset (word :: following ++ []) := by
            rwa [List.append_nil]
          refine ⟨word, following, _, [], rfl, ?_, rfl, whole.append_right⟩
          rw [outcome_readArgument_of_quoted quotable value,
            Span.read_of_unclosed opening (unclosed_tokensFrom_iff.mp inner),
            ← located.tail.trimEnd_drop]
          rfl

end Parameter

section Binding

variable {store : Variables} {line commandName : String}

/-- What the binding of words comes to is derived for their tokens. -/
theorem binding_of_words
    {parameters : List Parameter}
    {offset : Nat}
    {words : List Word}
    (located : Located line offset words) :
    Binding store line commandName parameters (tokensFrom offset words)
      ((Invocation.bindParameters store commandName parameters words).outcome.bind
        (Invocation.settled commandName)) := by
  induction parameters generalizing offset words with
  | nil =>
      cases words with
      | nil =>
          exact .complete
      | cons word words =>
          rw [tokensFrom_cons]
          exact .leftOver _ _
  | cons parameter parameters inductionHypothesis =>
      cases words with
      | nil =>
          cases optional : parameter.optional with
          | true =>
              rw [Invocation.outcome_bindParameters_of_absent optional,
                Invocation.settled_map_cons]
              exact .absent optional (inductionHypothesis located)
          | false =>
              rw [Invocation.outcome_bindParameters_of_missing optional]
              exact .missing parameters optional
      | cons word following =>
          obtain ⟨argument, taken, rest, shape, outcome, group⟩ :=
            exists_group_of_words located
          rw [shape] at located
          rw [Invocation.outcome_bindParameters_of_taken outcome, Invocation.settled_map_cons,
            shape, tokensFrom_append]
          exact .taken group (inductionHypothesis located.append_right)

/-- What is derived for the tokens of words is what their binding comes to. -/
theorem settled_of_binding
    {parameters : List Parameter}
    {tokens : List Token}
    {outcome : Except Fault (List String)}
    (binding : Binding store line commandName parameters tokens outcome) :
    ∀ {offset : Nat} {words : List Word},
      Located line offset words →
      tokensFrom offset words = tokens →
      (Invocation.bindParameters store commandName parameters words).outcome.bind
        (Invocation.settled commandName) = outcome := by
  induction binding with
  | complete =>
      intro offset words located shape
      cases words with
      | nil =>
          rfl
      | cons word words =>
          exact nomatch shape
  | leftOver token rest =>
      intro offset words located shape
      cases words with
      | nil =>
          exact nomatch shape
      | cons word words =>
          rw [tokensFrom_cons] at shape
          obtain ⟨rfl, _⟩ := List.cons.inj shape
          rfl
  | absent optional others inductionHypothesis =>
      intro offset words located shape
      cases words with
      | nil =>
          rw [Invocation.outcome_bindParameters_of_absent optional,
            Invocation.settled_map_cons, inductionHypothesis located shape]
      | cons word words =>
          exact nomatch shape
  | missing parameters required =>
      intro offset words located shape
      cases words with
      | nil =>
          rw [Invocation.outcome_bindParameters_of_missing required]
          rfl
      | cons word words =>
          exact nomatch shape
  | taken first others inductionHypothesis =>
      intro offset words located shape
      obtain ⟨word, following, restOffset, restWords, rfl, taken, rfl, behind⟩ :=
        readArgument_of_group located shape first
      rw [Invocation.outcome_bindParameters_of_taken taken, Invocation.settled_map_cons,
        inductionHypothesis behind rfl]

end Binding

section Line

variable {registry : Registry} {store : Variables} {line : String}

/-- The outcome of a line is derived by the grammar. -/
theorem reading_of_line :
    Reading registry store line (Invocation.ofLine? registry store line).outcome := by
  have located := located_words line
  cases shape : words line with
  | nil =>
      rw [Invocation.outcome_ofLine?_of_blank shape]
      exact .blank (by rw [tokenize, shape]; rfl)
  | cons first following =>
      rw [shape] at located
      have tokens := tokenize_of_words shape
      cases found : registry.lookup (String.ofList first.text) with
      | error fault =>
          rw [Invocation.outcome_ofLine?_of_not_found shape found]
          exact .notFound tokens found
      | ok command =>
          rw [Invocation.outcome_ofLine?_of_found shape found]
          exact .invoked tokens found (binding_of_words located.tail)

/-- The grammar derives no other outcome than that of the line. -/
theorem outcome_of_reading
    {outcome : Except Fault (Option Invocation)}
    (reading : Reading registry store line outcome) :
    (Invocation.ofLine? registry store line).outcome = outcome := by
  have located := located_words line
  cases shape : words line with
  | nil =>
      have noTokens : tokenize line = [] := by
        rw [tokenize, shape]
        rfl
      cases reading with
      | blank tokens =>
          exact Invocation.outcome_ofLine?_of_blank shape
      | notFound tokens missing =>
          rw [noTokens] at tokens
          cases tokens
      | invoked tokens found bound =>
          rw [noTokens] at tokens
          cases tokens
  | cons first following =>
      rw [shape] at located
      have split := tokenize_of_words shape
      cases reading with
      | blank tokens =>
          rw [split] at tokens
          cases tokens
      | notFound tokens missing =>
          obtain ⟨rfl, _⟩ := List.cons.inj (split.symm.trans tokens)
          exact Invocation.outcome_ofLine?_of_not_found shape missing
      | invoked tokens found bound =>
          obtain ⟨rfl, rfl⟩ := List.cons.inj (split.symm.trans tokens)
          rw [Invocation.outcome_ofLine?_of_found shape found,
            settled_of_binding bound located.tail rfl]

end Line

end CommandConsole.Grammar

namespace CommandConsole.Session

/--
Parsing accepts exactly the grammar of command lines: with no stop in between,
a line is parsed to an outcome exactly where the grammar derives this outcome
for the line.
-/
theorem outcome_parse_iff_reading
    {session : Session}
    {line : String}
    (undisturbed : session.Undisturbed
      (Invocation.ofLine? session.registry session.store line).pollCount)
    (outcome : Except Fault (Option Invocation)) :
    (session.parse line).outcome = outcome ↔
      Grammar.Reading session.registry session.store line outcome := by
  rw [outcome_parse_of_undisturbed undisturbed]
  constructor
  · rintro rfl
    exact Grammar.reading_of_line
  · exact Grammar.outcome_of_reading

/-- A value that a variable opens and the line closes is one argument, with its blanks. -/
theorem reading_of_spliced_value :
    let session : Session :=
      { offeringBuiltins 32 256 with
        store := ({} : Variables).set "start" "\"hello" }
    let line := "SET greeting start   big world\"  "
    Grammar.Reading session.registry session.store line
      (.ok (some ⟨Builtin.set.command, ["greeting", "hello   big world"]⟩)) := by
  intro session line
  have evaluated :
      (session.parse line).outcome =
          .ok (some ⟨Builtin.set.command, ["greeting", "hello   big world"]⟩) ∧
        session.stop = .lowered ∧
        session.alarm = none := by
    decide +kernel
  obtain ⟨parsed, lowered, noAlarm⟩ := evaluated
  have undisturbed := undisturbed_of_no_alarm lowered noAlarm
    (Invocation.ofLine? session.registry session.store line).pollCount
  exact (outcome_parse_iff_reading undisturbed _).mp parsed

end CommandConsole.Session
