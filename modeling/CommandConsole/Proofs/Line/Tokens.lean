import CommandConsole.Proofs.Line.Words
import Mathlib.Data.List.Basic

namespace CommandConsole.Line

/-!
# Where the words of a line stand

The offsets of tokens lead back to the characters of their line: what stands
between two tokens, and what stands behind one up to the last word.
-/

/-- The characters of a line from one offset up to another. -/
def slice (line : String) (start stop : Nat) : List Char :=
  (line.toList.drop start).take (stop - start)

/-- Words that stand behind an offset of a line, with nothing but blanks behind them. -/
structure Located (line : String) (offset : Nat) (words : List Word) : Prop where
  wellFormed : ∀ word ∈ words, word.WellFormed
  text : ∃ trailing, (∀ character ∈ trailing, Text.isBlank character = true) ∧
    line.toList.drop offset = words.flatMap Word.spaced ++ trailing

theorem located_words (line : String) : Located line 0 (words line) where
  wellFormed :=
    wellFormed_words line
  text := by
    simpa using exists_spaced_words line

/-- Words behind others stand behind the characters of these. -/
theorem Located.append_right
    {line : String}
    {offset : Nat}
    {first second : List Word}
    (located : Located line offset (first ++ second)) :
    Located line (offset + (first.flatMap Word.spaced).length) second where
  wellFormed :=
    fun word member => located.wellFormed word (List.mem_append_right first member)
  text := by
    obtain ⟨trailing, blank, shape⟩ := located.text
    refine ⟨trailing, blank, ?_⟩
    rw [← List.drop_drop, shape, List.flatMap_append, List.append_assoc, List.drop_left]

theorem Located.tail
    {line : String}
    {offset : Nat}
    {word : Word}
    {words : List Word}
    (located : Located line offset (word :: words)) :
    Located line (offset + word.spaced.length) words := by
  have behind : Located line offset ([word] ++ words) := located
  simpa using behind.append_right

/-- The token of a word that stands behind an offset. -/
def tokenAt (offset : Nat) (word : Word) : Token where
  text :=
    String.ofList word.text
  start :=
    offset + word.gap.length
  stop :=
    offset + word.spaced.length

/-- The offset behind a word is the one where its token ends. -/
theorem tokensFrom_cons (offset : Nat) (word : Word) (words : List Word) :
    tokensFrom offset (word :: words) =
      tokenAt offset word :: tokensFrom (offset + word.spaced.length) words := by
  simp [tokensFrom, tokenAt, Word.spaced, Nat.add_assoc]

theorem tokenize_of_words
    {line : String}
    {first : Word}
    {following : List Word}
    (shape : words line = first :: following) :
    tokenize line = tokenAt 0 first :: tokensFrom (0 + first.spaced.length) following := by
  rw [tokenize, shape, tokensFrom_cons]

theorem tokensFrom_append (offset : Nat) (first second : List Word) :
    tokensFrom offset (first ++ second) =
      tokensFrom offset first ++
        tokensFrom (offset + (first.flatMap Word.spaced).length) second := by
  induction first generalizing offset with
  | nil =>
      rfl
  | cons word rest inductionHypothesis =>
      rw [List.cons_append, tokensFrom_cons, tokensFrom_cons, inductionHypothesis]
      simp [Nat.add_assoc]

theorem map_text_tokensFrom (offset : Nat) (words : List Word) :
    (tokensFrom offset words).map Token.text =
      words.map fun word => String.ofList word.text := by
  induction words generalizing offset with
  | nil =>
      rfl
  | cons word words inductionHypothesis =>
      rw [tokensFrom_cons, List.map_cons, inductionHypothesis, List.map_cons]
      rfl

theorem length_tokensFrom (offset : Nat) (words : List Word) :
    (tokensFrom offset words).length = words.length := by
  rw [← List.length_map Token.text, map_text_tokensFrom, List.length_map]

/-- The token of a word has the index of the word and stands behind the words in front of it. -/
theorem getElem?_tokensFrom
    (offset : Nat)
    (earlier : List Word)
    (word : Word)
    (later : List Word) :
    (tokensFrom offset (earlier ++ word :: later))[earlier.length]? =
      some (tokenAt (offset + (earlier.flatMap Word.spaced).length) word) := by
  rw [tokensFrom_append, tokensFrom_cons, ← length_tokensFrom offset earlier]
  simp

/-- The tokens behind some others are those of the words behind theirs. -/
theorem drop_tokensFrom (offset count : Nat) (words : List Word) :
    (tokensFrom offset words).drop count =
      tokensFrom (offset + ((words.take count).flatMap Word.spaced).length)
        (words.drop count) := by
  induction count generalizing offset words with
  | zero =>
      rfl
  | succ count inductionHypothesis =>
      cases words with
      | nil =>
          rfl
      | cons word words =>
          rw [tokensFrom_cons, List.drop_succ_cons, inductionHypothesis]
          simp [Nat.add_assoc]

/-- Tokens can be told apart only where their words can. -/
theorem tokensFrom_eq_append
    {offset : Nat}
    {words : List Word}
    {first second : List Token}
    (shape : tokensFrom offset words = first ++ second) :
    ∃ firstWords secondWords,
      words = firstWords ++ secondWords ∧
        first = tokensFrom offset firstWords ∧
        second = tokensFrom (offset + (firstWords.flatMap Word.spaced).length) secondWords := by
  induction first generalizing offset words with
  | nil =>
      exact ⟨[], words, rfl, rfl, shape.symm⟩
  | cons token first inductionHypothesis =>
      cases words with
      | nil =>
          exact nomatch shape
      | cons word words =>
          rw [tokensFrom_cons, List.cons_append] at shape
          obtain ⟨sameToken, shape⟩ := List.cons.inj shape
          obtain ⟨firstWords, secondWords, rfl, rfl, rfl⟩ := inductionHypothesis shape
          refine ⟨word :: firstWords, secondWords, rfl, ?_, ?_⟩
          · rw [tokensFrom_cons, sameToken]
          · simp [Nat.add_assoc]

/-- The tokens of words have the texts of the words. -/
theorem forall_tokensFrom_iff
    (holds : List Char → Prop)
    {offset : Nat}
    {words : List Word} :
    (∀ token ∈ tokensFrom offset words, holds token.text.toList) ↔
      ∀ word ∈ words, holds word.text := by
  induction words generalizing offset with
  | nil =>
      simp [tokensFrom]
  | cons word words inductionHypothesis =>
      simp [tokensFrom_cons, tokenAt, inductionHypothesis]

/-- Between an offset and the last character of a word stand the words before it. -/
theorem Located.slice_eq
    {line : String}
    {offset : Nat}
    {between rest : List Word}
    {closing : Word}
    (located : Located line offset (between ++ closing :: rest)) :
    slice line offset
        (offset + (between.flatMap Word.spaced).length + closing.spaced.length - 1) =
      between.flatMap Word.spaced ++ closing.spaced.dropLast := by
  obtain ⟨trailing, _, shape⟩ := located.text
  have nonempty : closing.spaced ≠ [] := by
    simp [Word.spaced, (located.wellFormed closing (by simp)).nonempty]
  have positive := List.length_pos_iff.mpr nonempty
  have length :
      offset + (between.flatMap Word.spaced).length + closing.spaced.length - 1 - offset =
        (between.flatMap Word.spaced).length + (closing.spaced.length - 1) := by
    omega
  rw [slice, shape, length, List.flatMap_append, List.flatMap_cons, List.append_assoc,
    List.append_assoc, List.take_length_add_append, List.dropLast_eq_take]
  rw [List.take_append_of_le_length (Nat.sub_le _ _)]

theorem trimEnd_append_of_blank
    {trailing : List Char}
    (blank : ∀ character ∈ trailing, Text.isBlank character = true)
    (characters : List Char) :
    Text.trimEnd (characters ++ trailing) = Text.trimEnd characters := by
  have reversedBlank : ∀ character ∈ trailing.reverse, Text.isBlank character = true := by
    simpa using blank
  rw [Text.trimEnd, Text.dropTrailing, List.reverse_append,
    List.dropWhile_append_of_pos reversedBlank]
  rfl

theorem trimEnd_spaced
    {words : List Word}
    (wellFormed : ∀ word ∈ words, word.WellFormed) :
    Text.trimEnd (words.flatMap Word.spaced) = words.flatMap Word.spaced := by
  rcases List.eq_nil_or_concat' words with rfl | ⟨earlier, word, rfl⟩
  · rfl
  · have wordWellFormed := wellFormed word (by simp)
    rcases List.eq_nil_or_concat' word.text with empty | ⟨front, last, text⟩
    · exact (wordWellFormed.nonempty empty).elim
    · have kept := wordWellFormed.noBlank last (by simp [text])
      rw [List.flatMap_append, List.flatMap_singleton, Word.spaced, text, ← List.append_assoc,
        ← List.append_assoc]
      exact Text.dropTrailing_concat_of_keeps kept _

/-- Behind an offset stand the words up to the blanks at the end of the line. -/
theorem Located.trimEnd_drop
    {line : String}
    {offset : Nat}
    {words : List Word}
    (located : Located line offset words) :
    Text.trimEnd (line.toList.drop offset) = words.flatMap Word.spaced := by
  obtain ⟨trailing, blank, shape⟩ := located.text
  rw [shape, trimEnd_append_of_blank blank, trimEnd_spaced located.wellFormed]

end CommandConsole.Line
