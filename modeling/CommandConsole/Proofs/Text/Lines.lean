import CommandConsole.Text.Split

namespace CommandConsole.Text

/-!
# Texts cut behind their line feeds

A text is a list of lines that are ended by a line feed, and a rest without
one. This decides the lines and the rest.
-/

/-- A text is made of lines that a line feed ends, and of a rest. -/
structure Cut (text : List Char) (ended : List (List Char)) (rest : List Char) : Prop where
  whole : text = ended.flatMap (fun line => line ++ ['\n']) ++ rest
  endedPlain : ∀ line ∈ ended, '\n' ∉ line
  restPlain : '\n' ∉ rest

/-- The lines of a text that is cut; a rest that is empty is no line. -/
def withRest (ended : List (List Char)) (rest : List Char) : List (List Char) :=
  if rest = [] then
    ended
  else
    ended ++ [rest]

theorem splitAtEach_append_separator
    {separator : Char}
    {piece : List Char}
    (absent : separator ∉ piece)
    (rest : List Char) :
    splitAtEach separator (piece ++ separator :: rest) = piece :: splitAtEach separator rest := by
  induction piece with
  | nil =>
      exact splitAtEach_cons_separator separator rest
  | cons character piece inductionHypothesis =>
      simp only [List.mem_cons, not_or] at absent
      have behind := inductionHypothesis absent.2
      simp only [splitAtEach, List.cons_append, List.foldr_cons] at behind ⊢
      simp [behind, prependToPieces, Ne.symm absent.1]

namespace Cut

variable {text rest : List Char} {ended : List (List Char)}

theorem splitAtEach_eq (cut : Cut text ended rest) :
    splitAtEach '\n' text = ended ++ [rest] := by
  obtain ⟨rfl, endedPlain, restPlain⟩ := cut
  induction ended with
  | nil =>
      exact splitAtEach_of_not_mem restPlain
  | cons line ended inductionHypothesis =>
      rw [List.forall_mem_cons] at endedPlain
      simp only [List.flatMap_cons, List.append_assoc, List.cons_append, List.nil_append]
      rw [splitAtEach_append_separator endedPlain.1, inductionHypothesis endedPlain.2]

theorem endedLines_eq (cut : Cut text ended rest) : endedLines text = ended := by
  rw [endedLines, cut.splitAtEach_eq, List.dropLast_concat]

theorem lines_eq (cut : Cut text ended rest) : lines text = withRest ended rest := by
  simp only [lines, cut.splitAtEach_eq, List.getLast?_concat, List.dropLast_concat,
    Option.some.injEq, withRest]

end Cut

/-- Every text can be cut. -/
theorem exists_cut (text : List Char) : ∃ ended rest, Cut text ended rest := by
  induction text with
  | nil =>
      exact ⟨[], [], rfl, by simp, by simp⟩
  | cons character text inductionHypothesis =>
      obtain ⟨ended, rest, whole, endedPlain, restPlain⟩ := inductionHypothesis
      by_cases feed : character = '\n'
      · exact ⟨[] :: ended, rest, by simp [whole, feed], by simpa using endedPlain, restPlain⟩
      · cases ended with
        | nil =>
            exact ⟨[], character :: rest, by simp [whole], by simp,
              by simp [Ne.symm feed, restPlain]⟩
        | cons line ended =>
            rw [List.forall_mem_cons] at endedPlain
            refine ⟨(character :: line) :: ended, rest, by simp [whole], ?_, restPlain⟩
            rw [List.forall_mem_cons]
            exact ⟨by simp [Ne.symm feed, endedPlain.1], endedPlain.2⟩

end CommandConsole.Text
