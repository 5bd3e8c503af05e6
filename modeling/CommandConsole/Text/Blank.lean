namespace CommandConsole.Text

/-!
# Blanks

Two sets of separating characters and the cut of a text's trailing characters.
`isWhiteSpace` is the Unicode property White_Space; `isBlank` is the wider set
that separates the words of a command line, which also holds the four
information separators U+001C to U+001F.
-/

/-- Whether a character has the Unicode property White_Space. -/
def isWhiteSpace (character : Char) : Bool :=
  let code := character.toNat
  (0x09 ≤ code && code ≤ 0x0D) || code == 0x20 || code == 0x85 || code == 0xA0 ||
    code == 0x1680 || (0x2000 ≤ code && code ≤ 0x200A) || code == 0x2028 ||
    code == 0x2029 || code == 0x202F || code == 0x205F || code == 0x3000

/-- Whether a character separates the words of a command line. -/
def isBlank (character : Char) : Bool :=
  isWhiteSpace character || (0x1C ≤ character.toNat && character.toNat ≤ 0x1F)

/-- The longest initial part whose last character fails the test. -/
def dropTrailing
    (drops : Char → Bool)
    (characters : List Char) :
    List Char :=
  (characters.reverse.dropWhile drops).reverse

/-- A text without the blanks at its end. -/
def trimEnd (characters : List Char) : List Char :=
  dropTrailing isBlank characters

/-- Dropping from the end of a text with a last character that is dropped. -/
theorem dropTrailing_concat_of_drops
    {drops : Char → Bool}
    {last : Char}
    (dropped : drops last = true)
    (characters : List Char) :
    dropTrailing drops (characters ++ [last]) = dropTrailing drops characters := by
  simp [dropTrailing, dropped]

/-- A text whose last character is kept stays whole. -/
theorem dropTrailing_concat_of_keeps
    {drops : Char → Bool}
    {last : Char}
    (kept : drops last = false)
    (characters : List Char) :
    dropTrailing drops (characters ++ [last]) = characters ++ [last] := by
  simp [dropTrailing, kept]

end CommandConsole.Text
