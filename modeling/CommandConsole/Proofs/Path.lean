import CommandConsole.FileSystem.Path

namespace CommandConsole

/-!
# The characters of a path

Reading a path drops slashes and single dots, and nothing else. So any other
character is in a path just where it is in the text that names the path.
-/

namespace Text

/-- Cutting a text drops no character but the separator. -/
theorem mem_splitAtEach_iff
    {separator character : Char}
    (distinct : character ≠ separator)
    (characters : List Char) :
    (∃ piece ∈ splitAtEach separator characters, character ∈ piece) ↔
      character ∈ characters := by
  induction characters with
  | nil =>
      simp [splitAtEach]
  | cons first rest inductionHypothesis =>
      by_cases isSeparator : first = separator
      · subst isSeparator
        simp [splitAtEach_cons_separator, inductionHypothesis, distinct]
      · cases pieces : splitAtEach separator rest with
        | nil =>
            exact (splitAtEach_ne_nil separator rest pieces).elim
        | cons piece others =>
            have cut : splitAtEach separator (first :: rest) = (first :: piece) :: others := by
              unfold splitAtEach at pieces ⊢
              rw [List.foldr_cons, pieces, prependToPieces.eq_def, if_neg isSeparator]
            rw [pieces] at inductionHypothesis
            rw [cut, List.mem_cons, ← inductionHypothesis]
            simp [or_assoc]

/-- Joining pieces adds no character but the separator. -/
theorem mem_intercalate_iff
    {separator character : Char}
    (distinct : character ≠ separator)
    (pieces : List (List Char)) :
    character ∈ [separator].intercalate pieces ↔ ∃ piece ∈ pieces, character ∈ piece := by
  induction pieces with
  | nil =>
      simp
  | cons piece pieces inductionHypothesis =>
      cases pieces with
      | nil =>
          simp
      | cons second others =>
          rw [List.intercalate_cons_cons, List.mem_append, List.mem_append, inductionHypothesis]
          simp [distinct]

end Text

namespace FileSystem.Path

/-- A path has the characters of the text that it is read from, but for slashes and dots. -/
theorem mem_text_ofText_iff
    {character : Char}
    (noSlash : character ≠ '/')
    (noDot : character ≠ '.')
    (argument : String) :
    character ∈ (ofText argument).text.toList ↔ character ∈ argument.toList := by
  have named : (∃ piece ∈ (Text.splitAtEach '/' argument.toList).filter isName,
      character ∈ piece) ↔ character ∈ argument.toList := by
    rw [← Text.mem_splitAtEach_iff noSlash argument.toList]
    constructor
    · rintro ⟨piece, kept, member⟩
      exact ⟨piece, (List.mem_filter.mp kept).1, member⟩
    · rintro ⟨piece, cut, member⟩
      refine ⟨piece, List.mem_filter.mpr ⟨cut, ?_⟩, member⟩
      have someCharacter : piece ≠ [] := List.ne_nil_of_mem member
      have noSingleDot : piece ≠ ['.'] := by
        rintro rfl
        exact noDot (List.mem_singleton.mp member)
      simp [isName, someCharacter, noSingleDot]
  have joined : character ∈ ("/".intercalate (ofText argument).names).toList ↔
      character ∈ argument.toList := by
    rw [← named, String.toList_intercalate]
    have separator : "/".toList = ['/'] := rfl
    rw [separator, Text.mem_intercalate_iff noSlash]
    simp [ofText]
  rw [← joined, text]
  split
  · simp [noSlash]
  · simp [noSlash]
  · split
    · next noNames =>
        simp [noNames, noDot]
    · rfl

end FileSystem.Path

end CommandConsole
