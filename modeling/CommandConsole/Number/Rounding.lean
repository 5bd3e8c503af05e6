namespace CommandConsole.Number

/-!
# Rounding

A quotient is rounded to the nearest whole number, and half way between two of
them to the even one.
-/

/-- The whole number nearest to a quotient, the even one of two that are equally near. -/
def roundQuotient (numerator denominator : Nat) : Nat :=
  let quotient := numerator / denominator
  let rest := 2 * (numerator % denominator)
  if rest < denominator ∨ rest = denominator ∧ quotient % 2 = 0 then
    quotient
  else
    quotient + 1

/-- A rounded quotient is within one half of the exact one. -/
theorem roundQuotient_near
    {denominator : Nat}
    (positive : 0 < denominator)
    (numerator : Nat) :
    2 * (roundQuotient numerator denominator * denominator) ≤ 2 * numerator + denominator ∧
      2 * numerator ≤ 2 * (roundQuotient numerator denominator * denominator) + denominator := by
  have division := Nat.div_add_mod numerator denominator
  have small := Nat.mod_lt numerator positive
  have product : numerator / denominator * denominator =
      denominator * (numerator / denominator) := Nat.mul_comm _ _
  simp only [roundQuotient]
  split
  · omega
  · rw [Nat.add_mul]
    omega

/-- A whole quotient is not changed. -/
theorem roundQuotient_mul_self
    {denominator : Nat}
    (positive : 0 < denominator)
    (number : Nat) :
    roundQuotient (number * denominator) denominator = number := by
  simp [roundQuotient, Nat.mul_div_cancel _ positive, positive]

end CommandConsole.Number
