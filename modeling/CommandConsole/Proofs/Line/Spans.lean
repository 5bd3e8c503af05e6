import CommandConsole.Line.Span
import Mathlib.Data.List.TakeWhile

namespace CommandConsole.Line

/-!
# What a quote span takes

The three ways in which a span can end: with the value that opens it, at the
first later word that closes, or at the end of the line.
-/

/-- Words either hold a first one that closes, or none. -/
theorem unclosed_or_exists_closing (words : List Word) :
    (∀ word ∈ words, word.closes = false) ∨
      ∃ between closing rest,
        words = between ++ closing :: rest ∧
          (∀ word ∈ between, word.closes = false) ∧
          closing.closes = true := by
  induction words with
  | nil =>
      exact .inl (by simp)
  | cons word following inductionHypothesis =>
      cases closes : word.closes with
      | true =>
          exact .inr ⟨[], word, following, rfl, by simp, closes⟩
      | false =>
          rcases inductionHypothesis with unclosed | ⟨between, closing, rest, rfl, inner, last⟩
          · exact .inl (by simpa [closes] using unclosed)
          · exact .inr ⟨word :: between, closing, rest, rfl,
              by simpa [closes] using inner, last⟩

namespace Span

theorem opens_eq_true_iff {value : List Char} :
    opens value = true ↔ ∃ tail, value = quotationMark :: tail := by
  cases value with
  | nil =>
      simp [opens]
  | cons first tail =>
      simp [opens]

/-- A value that opens a span closes it by the last of its further characters. -/
theorem closesItself_cons (first : Char) (tail : List Char) :
    closesItself (first :: tail) = decide (tail.getLast? = some quotationMark) := by
  cases tail with
  | nil =>
      simp [closesItself]
  | cons second others =>
      simp [closesItself]

/-- A value between two quotes is a span of its own. -/
theorem read_of_closesItself (inner : List Char) (following : List Word) :
    read (quotationMark :: (inner ++ [quotationMark])) following = ⟨inner, 1, following⟩ := by
  simp [read, closesItself_cons]

/-- A span extends to the first word that closes and leaves those behind it. -/
theorem read_of_closing
    {tail : List Char}
    {between : List Word}
    {closing : Word}
    (opening : tail.getLast? ≠ some quotationMark)
    (inner : ∀ word ∈ between, word.closes = false)
    (last : closing.closes = true)
    (rest : List Word) :
    read (quotationMark :: tail) (between ++ closing :: rest) =
      ⟨tail ++ between.flatMap Word.spaced ++ closing.spaced.dropLast,
        between.length + 2, rest⟩ := by
  have taken :
      (between ++ closing :: rest).takeWhile (fun word => !word.closes) = between := by
    rw [List.takeWhile_append_of_pos (by simpa using inner)]
    simp [last]
  have dropped :
      (between ++ closing :: rest).dropWhile (fun word => !word.closes) = closing :: rest := by
    rw [List.dropWhile_append_of_pos (by simpa using inner)]
    simp [last]
  simp [read, closesItself_cons, opening, taken, dropped]

/-- A span that no word closes takes all words. -/
theorem read_of_unclosed
    {tail : List Char}
    {following : List Word}
    (opening : tail.getLast? ≠ some quotationMark)
    (unclosed : ∀ word ∈ following, word.closes = false) :
    read (quotationMark :: tail) following =
      ⟨tail ++ following.flatMap Word.spaced, following.length + 1, []⟩ := by
  have taken : following.takeWhile (fun word => !word.closes) = following :=
    List.takeWhile_eq_self_iff.mpr (by simpa using unclosed)
  have dropped : following.dropWhile (fun word => !word.closes) = [] :=
    List.dropWhile_eq_nil_iff.mpr (by simpa using unclosed)
  simp [read, closesItself_cons, opening, taken, dropped]

/-- A span ends with the value that opens it, at the first word that closes, or never. -/
theorem read_cases (tail : List Char) (following : List Word) :
    (∃ inner,
      tail = inner ++ [quotationMark] ∧
        read (quotationMark :: tail) following = ⟨inner, 1, following⟩) ∨
    (tail.getLast? ≠ some quotationMark ∧
      ∃ between closing rest,
        following = between ++ closing :: rest ∧
          (∀ word ∈ between, word.closes = false) ∧
          closing.closes = true ∧
          read (quotationMark :: tail) following =
            ⟨tail ++ between.flatMap Word.spaced ++ closing.spaced.dropLast,
              between.length + 2, rest⟩) ∨
    (tail.getLast? ≠ some quotationMark ∧
      (∀ word ∈ following, word.closes = false) ∧
      read (quotationMark :: tail) following =
        ⟨tail ++ following.flatMap Word.spaced, following.length + 1, []⟩) := by
  by_cases ends : tail.getLast? = some quotationMark
  · obtain ⟨inner, rfl⟩ := List.getLast?_eq_some_iff.mp ends
    exact .inl ⟨inner, rfl, read_of_closesItself inner following⟩
  · rcases unclosed_or_exists_closing following with
      unclosed | ⟨between, closing, rest, rfl, inner, last⟩
    · exact .inr (.inr ⟨ends, unclosed, read_of_unclosed ends unclosed⟩)
    · exact .inr (.inl ⟨ends, between, closing, rest, rfl, inner, last,
        read_of_closing ends inner last rest⟩)

end Span

end CommandConsole.Line
