namespace CommandConsole.Text

/-!
# Hexadecimal digits

Numbers written with a fixed count of lower-case hexadecimal digits.
-/

/-- The last digits of a number in base sixteen, a fixed count of them. -/
def hexadecimal : (width number : Nat) → List Char
  | 0, _ =>
      []
  | width + 1, number =>
      hexadecimal width (number / 16) ++ [Nat.digitChar (number % 16)]

/-- A number is written with exactly the digits asked for. -/
theorem length_hexadecimal (width number : Nat) :
    (hexadecimal width number).length = width := by
  induction width generalizing number with
  | zero =>
      rfl
  | succ width inductionHypothesis =>
      simp [hexadecimal, inductionHypothesis]

end CommandConsole.Text
