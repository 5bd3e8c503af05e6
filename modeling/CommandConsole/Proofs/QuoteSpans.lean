import CommandConsole.Proofs.Grammar

namespace CommandConsole.Grammar

open Line

/-!
# Which tokens quote spans take

The quote spans of a line by the indices of their tokens. They are found by the
texts of the tokens alone: a value that starts with a double quote takes the
tokens up to the first that ends with one, or all that are left. While a line is
parsed there is one poll for each token that a span takes, and for no other.
-/

/-- Consecutive tokens of a line, by the index of the first one and their count. -/
structure Stretch where
  start : Nat
  size : Nat
  deriving Repr, DecidableEq

/-- The tokens with the given index and with the next one belong to the stretch. -/
def Stretch.Joins (stretch : Stretch) (index : Nat) : Prop :=
  stretch.start ≤ index ∧ index + 1 < stretch.start + stretch.size

instance (text : List Char) : Decidable (EndsWithQuote text) :=
  inferInstanceAs (Decidable (text.getLast? = some quotationMark))

/-- How many tokens an open span takes of those with the given texts. -/
def closingCount : List String → Nat
  | [] =>
      0
  | text :: texts =>
      if EndsWithQuote text.toList then
        1
      else
        closingCount texts + 1

/-- How many tokens a span takes that a value opens in front of tokens with the given texts. -/
def spanSize (value : List Char) (texts : List String) : Nat :=
  if 1 < value.length ∧ EndsWithQuote value then
    1
  else
    closingCount texts + 1

/-- The stretches that spans take of tokens, of which the first has the given index. -/
def spansFrom (store : Variables) : List Parameter → Nat → List Token → List Stretch
  | [], _, _ =>
      []
  | _ :: _, _, [] =>
      []
  | parameter :: parameters, index, token :: following =>
      let value := (startingValue store parameter token).toList
      if parameter.quotable ∧ value.head? = some quotationMark then
        let size := spanSize value (following.map Token.text)
        ⟨index, size⟩ ::
          spansFrom store parameters (index + size) (following.drop (size - 1))
      else
        spansFrom store parameters (index + 1) following

/-- The stretches that the quote spans of a line take, none if the line names no command. -/
def quoteSpans (registry : Registry) (store : Variables) (line : String) : List Stretch :=
  match tokenize line with
  | [] =>
      []
  | first :: following =>
      match registry.lookup first.text with
      | .ok command =>
          spansFrom store command.parameters 1 following
      | .error _ =>
          []

/-- The count of all tokens that belong to one of some stretches. -/
def tokenCount : List Stretch → Nat
  | [] =>
      0
  | stretch :: stretches =>
      stretch.size + tokenCount stretches

section Span

/-- The texts of words as those of their tokens. -/
def textsOf (words : List Word) : List String :=
  words.map fun word => String.ofList word.text

theorem closingCount_cons (word : Word) (words : List Word) :
    closingCount (textsOf (word :: words)) =
      if word.closes = true then 1 else closingCount (textsOf words) + 1 := by
  simp [textsOf, closingCount, EndsWithQuote, Word.closes]

theorem closingCount_of_unclosed
    {words : List Word}
    (unclosed : ∀ word ∈ words, word.closes = false) :
    closingCount (textsOf words) = words.length := by
  induction words with
  | nil =>
      rfl
  | cons word words inductionHypothesis =>
      rw [List.forall_mem_cons] at unclosed
      rw [closingCount_cons, if_neg (by simp [unclosed.1]), inductionHypothesis unclosed.2,
        List.length_cons]

theorem closingCount_of_closing
    {between : List Word}
    {closing : Word}
    (inner : ∀ word ∈ between, word.closes = false)
    (last : closing.closes = true)
    (rest : List Word) :
    closingCount (textsOf (between ++ closing :: rest)) = between.length + 1 := by
  induction between with
  | nil =>
      rw [List.nil_append, closingCount_cons, if_pos last, List.length_nil]
  | cons word between inductionHypothesis =>
      rw [List.forall_mem_cons] at inner
      rw [List.cons_append, closingCount_cons, if_neg (by simp [inner.1]),
        inductionHypothesis inner.2, List.length_cons]

/-- A value that opens a span closes it by the last of its further characters. -/
theorem spanSize_cons (tail : List Char) (texts : List String) :
    spanSize (quotationMark :: tail) texts =
      if EndsWithQuote tail then 1 else closingCount texts + 1 := by
  have sameEnd : (1 < (quotationMark :: tail).length ∧ EndsWithQuote (quotationMark :: tail)) ↔
      EndsWithQuote tail := by
    cases tail with
    | nil =>
        simp [EndsWithQuote]
    | cons second others =>
        simp [EndsWithQuote]
  rw [spanSize, if_congr sameEnd rfl rfl]

/--
A span takes the word of the value that opens it and as many further ones as
their texts tell, and it is read from these words, whatever stands behind them.
-/
theorem exists_read_of_taken (tail : List Char) (following : List Word) :
    ∃ taken,
      spanSize (quotationMark :: tail) (textsOf following) = taken + 1 ∧
        Span.read (quotationMark :: tail) following =
          ⟨(Span.read (quotationMark :: tail) (following.take taken)).value, taken + 1,
            following.drop taken⟩ := by
  rw [spanSize_cons]
  rcases Span.read_cases tail following with
    ⟨inner, rfl, whole⟩ | ⟨opening, between, closing, rest, rfl, inner, last, whole⟩ |
      ⟨opening, unclosed, whole⟩
  · refine ⟨0, by simp [EndsWithQuote], ?_⟩
    rw [whole, List.take_zero, Span.read_of_closesItself]
    rfl
  · have opens : ¬ EndsWithQuote tail :=
      opening
    have taken : (between ++ closing :: rest).take (between.length + 1) = between ++ [closing] := by
      simp [List.take_append, List.take_of_length_le]
    have left : (between ++ closing :: rest).drop (between.length + 1) = rest := by
      simp [List.drop_append]
    refine ⟨between.length + 1, ?_, ?_⟩
    · rw [if_neg opens, closingCount_of_closing inner last]
    · rw [whole, taken, left, Span.read_of_closing opening inner last]
  · have opens : ¬ EndsWithQuote tail :=
      opening
    refine ⟨following.length, ?_, ?_⟩
    · rw [if_neg opens, closingCount_of_unclosed unclosed]
    · rw [List.take_length, List.drop_length, whole]

end Span

section Binding

variable {store : Variables} {parameter : Parameter} {word : Word}

/-- A parameter starts from a value that opens a span, or it takes one word. -/
theorem quoted_or_plain (store : Variables) (parameter : Parameter) (word : Word) :
    (parameter.quotable = true ∧
      ∃ tail, Invocation.wordValue store parameter word = quotationMark :: tail) ∨
      (parameter.quotable && Span.opens (Invocation.wordValue store parameter word)) = false := by
  cases opens : parameter.quotable && Span.opens (Invocation.wordValue store parameter word) with
  | false =>
      exact .inr rfl
  | true =>
      obtain ⟨quotable, opens⟩ := (Bool.and_eq_true _ _).mp opens
      exact .inl ⟨quotable, Span.opens_eq_true_iff.mp opens⟩

theorem readArgument_of_plain
    (plain :
      (parameter.quotable && Span.opens (Invocation.wordValue store parameter word)) = false)
    (following : List Word) :
    Invocation.readArgument store parameter word following =
      pure (String.ofList (Invocation.wordValue store parameter word), following) := by
  simp [Invocation.readArgument, plain]

theorem spansFrom_of_plain
    (plain :
      (parameter.quotable && Span.opens (Invocation.wordValue store parameter word)) = false)
    (parameters : List Parameter)
    (index offset : Nat)
    (following : List Word) :
    spansFrom store (parameter :: parameters) index (tokensFrom offset (word :: following)) =
      spansFrom store parameters (index + 1)
        (tokensFrom (offset + word.spaced.length) following) := by
  have noSpan : ¬ (parameter.quotable = true ∧
      (Invocation.wordValue store parameter word).head? = some quotationMark) := by
    simpa [Span.opens] using plain
  rw [tokensFrom_cons, spansFrom]
  simp only [toList_startingValue, if_neg noSpan]

/--
A value that opens a span takes a count of words behind its own. There is a
poll for each word that is taken, and the words form a stretch.
-/
theorem exists_taken_of_quoted
    {tail : List Char}
    (quotable : parameter.quotable = true)
    (value : Invocation.wordValue store parameter word = quotationMark :: tail)
    (following : List Word) :
    ∃ taken,
      spanSize (quotationMark :: tail) (textsOf following) = taken + 1 ∧
        Invocation.readArgument store parameter word following =
          ⟨List.replicate (taken + 1) .poll,
            .ok (String.ofList (Span.read (quotationMark :: tail) (following.take taken)).value,
              following.drop taken)⟩ ∧
        ∀ parameters index offset,
          spansFrom store (parameter :: parameters) index
              (tokensFrom offset (word :: following)) =
            ⟨index, taken + 1⟩ ::
              spansFrom store parameters (index + (taken + 1))
                (tokensFrom (offset + ((word :: following.take taken).flatMap Word.spaced).length)
                  (following.drop taken)) := by
  obtain ⟨taken, size, whole⟩ := exists_read_of_taken tail following
  have opens : Span.opens (quotationMark :: tail) = true := by
    simp [Span.opens]
  refine ⟨taken, size, ?_, ?_⟩
  · simp [Invocation.readArgument, quotable, value, opens, whole]
  · intro parameters index offset
    rw [tokensFrom_cons, spansFrom]
    simp only [toList_startingValue, value, quotable, List.head?_cons, and_self, if_true,
      map_text_tokensFrom]
    rw [textsOf] at size
    rw [size, Nat.add_sub_cancel, drop_tokensFrom, List.flatMap_cons, List.length_append,
      Nat.add_assoc]

/-- While parameters are bound, there is one poll for each token that a span takes. -/
theorem pollCount_bindParameters
    (store : Variables)
    (commandName : String)
    (parameters : List Parameter)
    (index offset : Nat)
    (words : List Word) :
    (Invocation.bindParameters store commandName parameters words).pollCount =
      tokenCount (spansFrom store parameters index (tokensFrom offset words)) := by
  induction parameters generalizing index offset words with
  | nil =>
      rfl
  | cons parameter parameters inductionHypothesis =>
      cases words with
      | nil =>
          have later := inductionHypothesis index offset []
          rw [Invocation.bindParameters]
          split
          · rw [Script.pollCount_bind_of_silent fun _ => rfl, later]
            cases parameters <;> rfl
          · rfl
      | cons word following =>
          rw [Invocation.bindParameters]
          rcases quoted_or_plain store parameter word with ⟨quotable, tail, value⟩ | plain
          · obtain ⟨taken, _, read, stretches⟩ := exists_taken_of_quoted quotable value following
            have later := inductionHypothesis (index + (taken + 1))
              (offset + ((word :: following.take taken).flatMap Word.spaced).length)
              (following.drop taken)
            rw [read, Script.pollCount_bind_of_ok rfl, stretches]
            dsimp only
            rw [Script.pollCount_bind_of_silent fun _ => rfl, later]
            simp [tokenCount, Script.pollCount]
          · have later := inductionHypothesis (index + 1) (offset + word.spaced.length) following
            rw [readArgument_of_plain plain, Script.pollCount_bind_of_ok rfl,
              spansFrom_of_plain plain]
            dsimp only
            rw [Script.pollCount_bind_of_silent fun _ => rfl, later, Script.pollCount_pure,
              Nat.zero_add]

/-- While a line is parsed, there is one poll for each token that a quote span takes. -/
theorem pollCount_ofLine?
    (registry : Registry)
    (store : Variables)
    (line : String) :
    (Invocation.ofLine? registry store line).pollCount =
      tokenCount (quoteSpans registry store line) := by
  cases shape : words line with
  | nil =>
      have noTokens : tokenize line = [] := by
        rw [tokenize, shape]
        rfl
      simp [Invocation.ofLine?, shape, quoteSpans, noTokens, tokenCount]
  | cons first following =>
      simp only [Invocation.ofLine?, shape, Script.pollCount_map, Invocation.ofWords, quoteSpans,
        tokenize_of_words shape]
      cases found : registry.lookup (tokenAt 0 first).text with
      | error fault =>
          rw [Script.pollCount_bind_of_error found]
          rfl
      | ok command =>
          rw [Script.pollCount_bind_of_ok found, Script.pollCount_ofExcept, Nat.zero_add,
            Script.pollCount_bind_of_silent, pollCount_bindParameters]
          rintro ⟨arguments, left⟩
          cases left <;> rfl

end Binding

end CommandConsole.Grammar
