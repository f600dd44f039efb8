/-!
Rounding of natural numbers to the nearest, a half to the even neighbour. `roundBits` keeps a number
of leading binary digits, as one floating-point operation does.
-/

namespace VoxelGrid.Rounding

def roundDiv (num den : Nat) : Nat :=
  let q := num / den
  let r := num % den
  if den < 2 * r ∨ (2 * r = den ∧ q % 2 = 1) then q + 1 else q

/-- The nearest number to `n` with at most `bits` significant binary digits. -/
def roundBits (bits n : Nat) : Nat :=
  let unit := Nat.pow 2 (n.log2 + 1 - bits)
  roundDiv n unit * unit

end VoxelGrid.Rounding
