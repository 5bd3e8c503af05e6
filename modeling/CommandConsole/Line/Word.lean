import CommandConsole.Text.Blank

namespace CommandConsole.Line

/-!
# Words of a line

A line is cut into its longest runs of characters that are not blank. A word
keeps the blanks in front of it, so that the words and the blanks after the
last one determine the line; the offsets of the words are counted from them.
-/

/-- One word of a line together with the blanks in front of it. -/
structure Word where
  gap : List Char
  text : List Char
  deriving Repr, DecidableEq

namespace Word

/-- The characters of the line that the word covers, its gap first. -/
def spaced (word : Word) : List Char :=
  word.gap ++ word.text

/-- Put one character in front of a line that is already cut into words. -/
def prepend (character : Char) : List Word → List Word
  | [] =>
      if Text.isBlank character then
        []
      else
        [⟨[], [character]⟩]
  | word :: rest =>
      if Text.isBlank character then
        { word with gap := character :: word.gap } :: rest
      else if word.gap = [] then
        { word with text := character :: word.text } :: rest
      else
        ⟨[], [character]⟩ :: word :: rest

/-- A gap holds blanks alone, and a text holds at least one character and no blank. -/
structure WellFormed (word : Word) : Prop where
  blankGap : ∀ character ∈ word.gap, Text.isBlank character = true
  nonempty : word.text ≠ []
  noBlank : ∀ character ∈ word.text, Text.isBlank character = false

/-- Putting a character in front of well-formed words gives well-formed words. -/
theorem wellFormed_prepend
    {character : Char}
    {following : List Word}
    (wellFormed : ∀ word ∈ following, word.WellFormed) :
    ∀ word ∈ prepend character following, word.WellFormed := by
  cases following with
  | nil =>
      intro word member
      by_cases blank : Text.isBlank character = true
      · simp [prepend, blank] at member
      · simp only [Bool.not_eq_true] at blank
        simp only [prepend, blank, Bool.false_eq_true, ↓reduceIte, List.mem_singleton] at member
        subst member
        exact ⟨by simp, by simp, by simpa using blank⟩
  | cons first rest =>
      have firstWellFormed := wellFormed first List.mem_cons_self
      have restWellFormed : ∀ word ∈ rest, word.WellFormed :=
        fun word member => wellFormed word (List.mem_cons_of_mem first member)
      intro word member
      by_cases blank : Text.isBlank character = true
      · simp only [prepend, blank, ↓reduceIte, List.mem_cons] at member
        rcases member with rfl | inRest
        · refine ⟨?_, firstWellFormed.nonempty, firstWellFormed.noBlank⟩
          simpa [blank] using firstWellFormed.blankGap
        · exact restWellFormed word inRest
      · simp only [Bool.not_eq_true] at blank
        by_cases adjacent : first.gap = []
        · simp only [prepend, blank, adjacent, Bool.false_eq_true, ↓reduceIte, List.mem_cons]
            at member
          rcases member with rfl | inRest
          · exact ⟨by simp, by simp,
              by simpa [blank] using firstWellFormed.noBlank⟩
          · exact restWellFormed word inRest
        · simp only [prepend, blank, adjacent, Bool.false_eq_true, ↓reduceIte, List.mem_cons]
            at member
          rcases member with rfl | isFirst | inRest
          · exact ⟨by simp, by simp, by simpa using blank⟩
          · exact isFirst ▸ firstWellFormed
          · exact restWellFormed word inRest

end Word

/-- The words of a line in order of appearance. -/
def words (line : String) : List Word :=
  line.toList.foldr Word.prepend []

/-- The words of a line are well formed. -/
theorem wellFormed_words (line : String) : ∀ word ∈ words line, word.WellFormed := by
  unfold words
  induction line.toList with
  | nil =>
      simp
  | cons character rest inductionHypothesis =>
      exact Word.wellFormed_prepend inductionHypothesis

/-- The words of a line and the blanks behind the last one are the line. -/
theorem exists_spaced_words (line : String) :
    ∃ trailing, (∀ character ∈ trailing, Text.isBlank character = true) ∧
      line.toList = (words line).flatMap Word.spaced ++ trailing := by
  unfold words
  induction line.toList with
  | nil =>
      exact ⟨[], by simp⟩
  | cons character rest inductionHypothesis =>
      obtain ⟨trailing, blank, shape⟩ := inductionHypothesis
      rw [List.foldr_cons]
      generalize rest.foldr Word.prepend [] = following at shape
      subst shape
      cases following with
      | nil =>
          by_cases isBlank : Text.isBlank character = true
          · exact ⟨character :: trailing, by simpa [isBlank] using blank,
              by simp [Word.prepend, isBlank]⟩
          · exact ⟨trailing, blank, by simp [Word.prepend, isBlank, Word.spaced]⟩
      | cons first others =>
          refine ⟨trailing, blank, ?_⟩
          by_cases isBlank : Text.isBlank character = true
          · simp [Word.prepend, isBlank, Word.spaced]
          · by_cases adjacent : first.gap = []
            · simp [Word.prepend, isBlank, adjacent, Word.spaced]
            · simp [Word.prepend, isBlank, adjacent, Word.spaced]

/-- The text of a word with its span in the line, the end exclusive. -/
structure Token where
  text : String
  start : Nat
  stop : Nat
  deriving Repr, DecidableEq

/-- The tokens of words that begin at an offset of their line. -/
def tokensFrom (offset : Nat) : List Word → List Token
  | [] =>
      []
  | word :: rest =>
      let start := offset + word.gap.length
      let stop := start + word.text.length
      ⟨String.ofList word.text, start, stop⟩ :: tokensFrom stop rest

/-- The tokens of a line in order of appearance. -/
def tokenize (line : String) : List Token :=
  tokensFrom 0 (words line)

end CommandConsole.Line
