import CommandConsole.Proofs.Line.Enclosable

namespace CommandConsole.Line

/-!
# Values between quotes

A value that is put between double quotes is read back as a quote span, blanks
and all, unless one of its own quotes stands directly in front of a blank: such
a quote ends the span.
-/

/-- A value between two double quotes. -/
def enclosed (value : List Char) : List Char :=
  quotationMark :: (value ++ [quotationMark])

/-- Putting a character in front of words changes the first of them or starts a word of its own. -/
theorem prepend_extends_or_starts
    {first : Word}
    (nonempty : first.text ≠ [])
    (character : Char)
    (following : List Word) :
    (∃ changed,
      Word.prepend character (first :: following) = changed :: following ∧
        changed.spaced = character :: first.spaced ∧
        changed.closes = first.closes) ∨
      (first.gap ≠ [] ∧
        Word.prepend character (first :: following) =
          ⟨[], [character]⟩ :: first :: following) := by
  by_cases blank : Text.isBlank character = true
  · exact .inl ⟨⟨character :: first.gap, first.text⟩, by simp [Word.prepend, blank],
      by simp [Word.spaced], rfl⟩
  · by_cases adjacent : first.gap = []
    · refine .inl ⟨⟨[], character :: first.text⟩, by simp [Word.prepend, blank, adjacent],
        by simp [Word.spaced, adjacent], ?_⟩
      obtain ⟨second, others, shape⟩ := List.exists_cons_of_ne_nil nonempty
      simp [Word.closes, shape]
    · exact .inr ⟨adjacent, by simp [Word.prepend, blank, adjacent]⟩

/-- In an enclosable text only other characters than quotes stand in front of a blank. -/
theorem closes_eq_false_of_endsWord
    {character : Char}
    {text rest : List Char}
    (enclosable : Enclosable (character :: text))
    (endsWord : EndsWord (text ++ quotationMark :: rest)) :
    (⟨[], [character]⟩ : Word).closes = false := by
  cases text with
  | nil =>
      have blank := endsWord quotationMark (by simp)
      simp [isBlank_quotationMark] at blank
  | cons next others =>
      have blank := endsWord next (by simp)
      have notQuote : character ≠ quotationMark :=
        fun quote => (List.isChain_cons_cons.mp enclosable).1 ⟨quote, blank⟩
      simpa [Word.closes] using notQuote

/--
A text in which no quote stands in front of a blank is read up to a quote
behind it that a blank or the end follows, and no word before that quote closes.
-/
theorem exists_closing_of_enclosable
    {text rest : List Char}
    (enclosable : Enclosable text)
    (endsWord : EndsWord rest) :
    ∃ between closing,
      wordsOf (text ++ quotationMark :: rest) = between ++ closing :: wordsOf rest ∧
        (∀ word ∈ between, word.closes = false) ∧
        closing.closes = true ∧
        between.flatMap Word.spaced ++ closing.spaced = text ++ [quotationMark] := by
  induction text with
  | nil =>
      refine ⟨[], ⟨[], [quotationMark]⟩, ?_, by simp, by simp [Word.closes], rfl⟩
      exact wordsOf_cons_of_endsWord isBlank_quotationMark endsWord
  | cons character text inductionHypothesis =>
      obtain ⟨between, closing, shape, inner, last, spelled⟩ :=
        inductionHypothesis enclosable.tail
      have nonempty : ∀ word ∈ between ++ closing :: wordsOf rest, word.text ≠ [] := by
        rw [← shape]
        exact fun word member => (wellFormed_wordsOf _ word member).nonempty
      have starts
          {first : Word}
          {following : List Word}
          (isFirst : wordsOf (text ++ quotationMark :: rest) = first :: following)
          (spaced : first.gap ≠ []) :
          (⟨[], [character]⟩ : Word).closes = false := by
        apply closes_eq_false_of_endsWord enclosable
        exact Classical.not_not.mp (mt (gap_eq_nil_iff_of_wordsOf isFirst).mpr spaced)
      rw [List.cons_append, wordsOf_cons]
      cases between with
      | nil =>
          simp only [List.nil_append, List.flatMap_nil] at shape spelled
          rw [shape]
          rcases prepend_extends_or_starts (nonempty closing (by simp)) character (wordsOf rest)
            with ⟨changed, result, changedText, changedCloses⟩ | ⟨spaced, result⟩
          · exact ⟨[], changed, result, by simp, changedCloses.trans last,
              by simp [changedText, spelled]⟩
          · exact ⟨[⟨[], [character]⟩], closing, result,
              by simpa using starts shape spaced, last,
              by simp [Word.spaced, ← spelled]⟩
      | cons first between =>
          rw [shape, List.cons_append]
          rcases prepend_extends_or_starts (nonempty first (by simp)) character
              (between ++ closing :: wordsOf rest)
            with ⟨changed, result, changedText, changedCloses⟩ | ⟨spaced, result⟩
          · refine ⟨changed :: between, closing, result, ?_, last, ?_⟩
            · simpa [changedCloses] using inner
            · simpa [changedText] using spelled
          · refine ⟨⟨[], [character]⟩ :: first :: between, closing, result, ?_, last, ?_⟩
            · simpa [starts shape spaced] using inner
            · simpa [Word.spaced] using spelled

/-- A quote opens a span in front of the words that close it. -/
theorem exists_read_of_prepend
    {value : List Char}
    {between : List Word}
    {closing : Word}
    (inner : ∀ word ∈ between, word.closes = false)
    (last : closing.closes = true)
    (spelled : between.flatMap Word.spaced ++ closing.spaced = value ++ [quotationMark])
    (rest : List Word) :
    ∃ opening following size,
      Word.prepend quotationMark (between ++ closing :: rest) = ⟨[], opening⟩ :: following ∧
        Span.read opening following = ⟨value, size, rest⟩ := by
  have closingText : closing.text ≠ [] := by
    intro empty
    simp [Word.closes, empty] at last
  have closingSpaced : closing.spaced ≠ [] := by
    simp [Word.spaced, closingText]
  have valueShape : between.flatMap Word.spaced ++ closing.spaced.dropLast = value := by
    have shortened := congrArg List.dropLast spelled
    rwa [List.dropLast_append_of_ne_nil closingSpaced, List.dropLast_concat] at shortened
  have alone :
      Span.read [quotationMark] (between ++ closing :: rest) =
        ⟨value, between.length + 2, rest⟩ := by
    rw [Span.read_of_closing (by simp) inner last rest, List.nil_append, valueShape]
  cases between with
  | nil =>
      by_cases adjacent : closing.gap = []
      · refine ⟨quotationMark :: closing.text, rest, 1, ?_, ?_⟩
        · simp [Word.prepend, isBlank_quotationMark, adjacent]
        · have closingShape : closing.text = value ++ [quotationMark] := by
            simpa [Word.spaced, adjacent] using spelled
          rw [closingShape, Span.read_of_closesItself]
      · refine ⟨[quotationMark], closing :: rest, 2, ?_, alone⟩
        simp [Word.prepend, isBlank_quotationMark, adjacent]
  | cons first between =>
      by_cases adjacent : first.gap = []
      · simp only [List.mem_cons, forall_eq_or_imp] at inner
        have open' : first.text.getLast? ≠ some quotationMark := by
          simpa [Word.closes] using inner.1
        refine ⟨quotationMark :: first.text, between ++ closing :: rest, between.length + 2,
          ?_, ?_⟩
        · simp [Word.prepend, isBlank_quotationMark, adjacent]
        · rw [Span.read_of_closing open' inner.2 last rest]
          simpa [Word.spaced, adjacent] using valueShape
      · refine ⟨[quotationMark], first :: between ++ closing :: rest, _, ?_, alone⟩
        simp [Word.prepend, isBlank_quotationMark, adjacent]

/-- An enclosable value between quotes opens a span that is read as the value. -/
theorem read_enclosed
    {value rest : List Char}
    (enclosable : Enclosable value)
    (endsWord : EndsWord rest) :
    ∃ following size,
      wordsOf (enclosed value ++ rest) = ⟨[], firstWord (enclosed value)⟩ :: following ∧
        Span.read (firstWord (enclosed value)) following = ⟨value, size, wordsOf rest⟩ := by
  obtain ⟨between, closing, shape, inner, last, spelled⟩ :=
    exists_closing_of_enclosable enclosable endsWord
  obtain ⟨opening, following, size, result, spanRead⟩ :=
    exists_read_of_prepend inner last spelled (wordsOf rest)
  rw [← shape, ← wordsOf_cons] at result
  have parts :
      enclosed value ++ rest = quotationMark :: (value ++ quotationMark :: rest) := by
    simp [enclosed]
  have sameOpening : opening = firstWord (enclosed value) := by
    have ofLine := text_eq_firstWord result
    rw [← parts] at ofLine
    exact ofLine.trans
      (firstWord_append (by simp [enclosed]) isBlank_quotationMark endsWord)
  rw [parts, result, ← sameOpening]
  exact ⟨following, size, rfl, spanRead⟩

end CommandConsole.Line
