namespace CommandConsole.Text

/-!
# Pieces of a text

A text is cut at every occurrence of a separator. There is always one piece
more than there are separators, and joining the pieces with the separator
gives the text back.
-/

/-- Put one character in front of a text that is already cut into pieces. -/
def prependToPieces
    (separator character : Char)
    (pieces : List (List Char)) :
    List (List Char) :=
  if character = separator then
    [] :: pieces
  else
    match pieces with
    | [] =>
        [[character]]
    | piece :: rest =>
        (character :: piece) :: rest

/-- The pieces of a text between the occurrences of a separator. -/
def splitAtEach (separator : Char) (characters : List Char) : List (List Char) :=
  characters.foldr (prependToPieces separator) [[]]

/-- The pieces that are ended by a line feed, without what follows the last one. -/
def endedLines (characters : List Char) : List (List Char) :=
  (splitAtEach '\n' characters).dropLast

/-- The lines of a text; a line feed ends a line, and the last line may lack it. -/
def lines (characters : List Char) : List (List Char) :=
  let pieces := splitAtEach '\n' characters
  if pieces.getLast? = some [] then
    pieces.dropLast
  else
    pieces

/-- Cutting never yields an empty list of pieces. -/
theorem splitAtEach_ne_nil (separator : Char) (characters : List Char) :
    splitAtEach separator characters ≠ [] := by
  cases characters with
  | nil =>
      simp [splitAtEach]
  | cons character rest =>
      simp only [splitAtEach, List.foldr_cons, prependToPieces]
      split
      · simp
      · split <;> simp

/-- A separator at the front opens a new empty piece. -/
theorem splitAtEach_cons_separator (separator : Char) (characters : List Char) :
    splitAtEach separator (separator :: characters) =
      [] :: splitAtEach separator characters := by
  simp [splitAtEach, prependToPieces]

/-- A text without its separator is one piece. -/
theorem splitAtEach_of_not_mem
    {separator : Char}
    {characters : List Char}
    (absent : separator ∉ characters) :
    splitAtEach separator characters = [characters] := by
  induction characters with
  | nil =>
      rfl
  | cons character rest inductionHypothesis =>
      simp only [List.mem_cons, not_or] at absent
      obtain ⟨distinct, absentFromRest⟩ := absent
      have restPiece := inductionHypothesis absentFromRest
      simp only [splitAtEach, List.foldr_cons] at restPiece ⊢
      simp [restPiece, prependToPieces, Ne.symm distinct]

end CommandConsole.Text
