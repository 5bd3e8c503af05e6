import CommandConsole.Proofs.Line.Spans
import CommandConsole.Proofs.Line.Words
import Mathlib.Data.List.Chain

namespace CommandConsole.Line

/-!
# Texts without a double quote in front of a blank

Such a text can be put between double quotes without one of its own quotes
ending the span. The words of a line are such texts, and so is every value that
a quote span has: a word that is glued to another one inside a span does not
end with a quote.
-/

/-- No double quote of a text stands directly in front of a blank. -/
def Enclosable (text : List Char) : Prop :=
  text.IsChain fun character next =>
    ¬(character = quotationMark ∧ Text.isBlank next = true)

instance (text : List Char) : Decidable (Enclosable text) :=
  inferInstanceAs (Decidable (text.IsChain _))

/-- Whether a text lets any other follow it: its last character is no double quote. -/
def LeavesOpen (text : List Char) : Prop :=
  text.getLast? ≠ some quotationMark

theorem isBlank_quotationMark : Text.isBlank quotationMark = false := by
  decide

/--
A text that is not enclosable has a first double quote that stands directly in
front of a blank.
-/
theorem exists_quote_before_blank
    {text : List Char}
    (notEnclosable : ¬ Enclosable text) :
    ∃ before blank after,
      text = before ++ quotationMark :: blank :: after ∧
        Text.isBlank blank = true ∧
        Enclosable before := by
  induction text with
  | nil =>
      exact (notEnclosable .nil).elim
  | cons character rest inductionHypothesis =>
      by_cases violated :
          character = quotationMark ∧ ∃ blank ∈ rest.head?, Text.isBlank blank = true
      · obtain ⟨rfl, blank, first, isBlank⟩ := violated
        obtain ⟨after, rfl⟩ := List.head?_eq_some_iff.mp first
        exact ⟨[], blank, after, rfl, isBlank, .nil⟩
      · have restNotEnclosable : ¬ Enclosable rest := by
          intro restEnclosable
          refine notEnclosable (List.isChain_cons.mpr ⟨?_, restEnclosable⟩)
          intro next first split
          exact violated ⟨split.1, next, first, split.2⟩
        obtain ⟨before, blank, after, rfl, isBlank, enclosable⟩ :=
          inductionHypothesis restNotEnclosable
        refine ⟨character :: before, blank, after, rfl, isBlank, ?_⟩
        refine List.isChain_cons.mpr ⟨?_, enclosable⟩
        intro next first split
        refine violated ⟨split.1, next, ?_, split.2⟩
        obtain ⟨others, rfl⟩ := List.head?_eq_some_iff.mp first
        simp

/-- What a text without a quote at its end is glued to stays enclosable. -/
theorem Enclosable.append
    {first second : List Char}
    (firstEnclosable : Enclosable first)
    (leavesOpen : LeavesOpen first)
    (secondEnclosable : Enclosable second) :
    Enclosable (first ++ second) := by
  refine List.IsChain.append firstEnclosable secondEnclosable ?_
  rintro last isLast next _ ⟨rfl, _⟩
  exact leavesOpen isLast

theorem LeavesOpen.append
    {first second : List Char}
    (firstOpen : LeavesOpen first)
    (secondOpen : LeavesOpen second) :
    LeavesOpen (first ++ second) := by
  unfold LeavesOpen at *
  rw [List.getLast?_append]
  cases last : second.getLast? with
  | none =>
      simpa using firstOpen
  | some character =>
      rw [last] at secondOpen
      simpa using secondOpen

/-- Texts that are enclosable and leave open can be glued together in any number. -/
theorem enclosable_flatMap
    {pieces : List α}
    {text : α → List Char}
    (enclosable : ∀ piece ∈ pieces, Enclosable (text piece))
    (leavesOpen : ∀ piece ∈ pieces, LeavesOpen (text piece)) :
    Enclosable (pieces.flatMap text) ∧ LeavesOpen (pieces.flatMap text) := by
  induction pieces with
  | nil =>
      exact ⟨.nil, by simp [LeavesOpen]⟩
  | cons piece pieces inductionHypothesis =>
      simp only [List.mem_cons, forall_eq_or_imp] at enclosable leavesOpen
      obtain ⟨restEnclosable, restOpen⟩ :=
        inductionHypothesis enclosable.2 leavesOpen.2
      rw [List.flatMap_cons]
      exact ⟨enclosable.1.append leavesOpen.1 restEnclosable, leavesOpen.1.append restOpen⟩

/-- Blanks alone are enclosable and leave open. -/
theorem enclosable_of_blank
    {characters : List Char}
    (blank : ∀ character ∈ characters, Text.isBlank character = true) :
    Enclosable characters ∧ LeavesOpen characters := by
  have noQuote : ∀ character ∈ characters, character ≠ quotationMark := by
    rintro character member rfl
    have isBlank := blank quotationMark member
    simp [isBlank_quotationMark] at isBlank
  constructor
  · induction characters with
    | nil =>
        exact .nil
    | cons character rest inductionHypothesis =>
        simp only [List.mem_cons, forall_eq_or_imp] at blank noQuote
        refine List.isChain_cons.mpr ⟨?_, inductionHypothesis blank.2 noQuote.2⟩
        intro next _ split
        exact noQuote.1 split.1
  · intro last
    exact noQuote quotationMark (List.mem_of_getLast? last) rfl

theorem enclosable_of_no_blank
    {text : List Char}
    (noBlank : ∀ character ∈ text, Text.isBlank character = false) :
    Enclosable text := by
  induction text with
  | nil =>
      exact .nil
  | cons character rest inductionHypothesis =>
      simp only [List.mem_cons, forall_eq_or_imp] at noBlank
      refine List.isChain_cons.mpr ⟨?_, inductionHypothesis noBlank.2⟩
      intro next first split
      have notBlank := noBlank.2 next (List.mem_of_mem_head? first)
      simp [notBlank] at split

/-- A word with the blanks in front of it is enclosable. -/
theorem Word.WellFormed.enclosable_spaced
    {word : Word}
    (wellFormed : word.WellFormed) :
    Enclosable word.spaced := by
  obtain ⟨gapEnclosable, gapOpen⟩ := enclosable_of_blank wellFormed.blankGap
  exact gapEnclosable.append gapOpen (enclosable_of_no_blank wellFormed.noBlank)

theorem Word.WellFormed.leavesOpen_spaced
    {word : Word}
    (wellFormed : word.WellFormed)
    (unclosed : word.closes = false) :
    LeavesOpen word.spaced := by
  apply LeavesOpen.append (enclosable_of_blank wellFormed.blankGap).2
  simpa [LeavesOpen, Word.closes] using unclosed

/-- Words inside a span are enclosable together and leave open. -/
theorem enclosable_between
    {words : List Word}
    (wellFormed : ∀ word ∈ words, word.WellFormed)
    (unclosed : ∀ word ∈ words, word.closes = false) :
    Enclosable (words.flatMap Word.spaced) ∧ LeavesOpen (words.flatMap Word.spaced) :=
  enclosable_flatMap
    (fun word member => (wellFormed word member).enclosable_spaced)
    (fun word member => (wellFormed word member).leavesOpen_spaced (unclosed word member))

/--
A quote span has an enclosable value where the value that opens it is
enclosable, and it leaves words of those it was given.
-/
theorem Span.enclosable_read
    {tail : List Char}
    {following : List Word}
    (enclosable : Enclosable (quotationMark :: tail))
    (wellFormed : ∀ word ∈ following, word.WellFormed) :
    Enclosable (Span.read (quotationMark :: tail) following).value ∧
      (Span.read (quotationMark :: tail) following).rest <:+ following := by
  have tailEnclosable : Enclosable tail := enclosable.tail
  rcases Span.read_cases tail following with
    ⟨inner, rfl, spanRead⟩ |
      ⟨opening, between, closing, rest, rfl, inner, last, spanRead⟩ |
      ⟨opening, inner, spanRead⟩
  · rw [spanRead]
    exact ⟨tailEnclosable.left_of_append, List.suffix_rfl⟩
  · have betweenWellFormed : ∀ word ∈ between, word.WellFormed :=
      fun word member => wellFormed word (List.mem_append_left _ member)
    obtain ⟨betweenEnclosable, betweenOpen⟩ := enclosable_between betweenWellFormed inner
    have closingEnclosable : Enclosable closing.spaced :=
      (wellFormed closing (by simp)).enclosable_spaced
    rw [spanRead]
    constructor
    · exact (tailEnclosable.append opening betweenEnclosable).append
        (LeavesOpen.append opening betweenOpen) closingEnclosable.dropLast
    · exact List.suffix_append_of_suffix (List.suffix_cons closing rest)
  · rw [spanRead]
    exact ⟨tailEnclosable.append opening (enclosable_between wellFormed inner).1,
      List.nil_suffix⟩

end CommandConsole.Line
