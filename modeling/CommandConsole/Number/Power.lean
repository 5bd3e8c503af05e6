namespace CommandConsole.Number

/-!
# Powers

The powers of the two bases that numbers are scaled by.
-/

/-- A power of two. -/
def powerOfTwo (exponent : Nat) : Nat :=
  Nat.pow 2 exponent

/-- A power of ten. -/
def powerOfTen (exponent : Nat) : Nat :=
  Nat.pow 10 exponent

/-- Scaling by a power of two loses nothing. -/
theorem powerOfTwo_pos (exponent : Nat) : 0 < powerOfTwo exponent :=
  Nat.pow_pos (by decide)

/-- Scaling by a power of ten loses nothing. -/
theorem powerOfTen_pos (exponent : Nat) : 0 < powerOfTen exponent :=
  Nat.pow_pos (by decide)

end CommandConsole.Number
