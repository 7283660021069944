/-!
Rounding to the nearest, a half to the even neighbour, and the grid of floating-point numbers of 64 bits.
-/
namespace StreamLinks.Rounding

/-- The quotient rounded to the nearest whole number, a half to the even one. -/
def divideToEven (dividend divisor : Nat) : Nat :=
  let floor := dividend / divisor
  let twice := 2 * (dividend % divisor)
  if twice < divisor then floor
  else if twice = divisor then floor + floor % 2
  else floor + 1

/-- The nearest number with at most 53 binary digits before its trailing zeros. -/
def toFloatGrid (n : Nat) : Nat :=
  if n < Nat.pow 2 53 then n
  else
    let step := Nat.pow 2 (Nat.log2 n - 52)
    divideToEven n step * step

/-- The least number that rounds to no finite floating-point number of 64 bits. -/
def floatLimit : Nat := (Nat.pow 2 54 - 1) * Nat.pow 2 970

/-- A whole number lies on the grid as it is while it has at most 53 binary digits. -/
theorem toFloatGrid_of_lt {n : Nat} (h : n < Nat.pow 2 53) : toFloatGrid n = n := by
  unfold toFloatGrid
  rw [if_pos h]

end StreamLinks.Rounding
