import VoxelGrid.Error
import VoxelGrid.Number.Root

/-!
Pairs of natural numbers counted along diagonals: the pairs with sum `j` follow those with smaller
sums, in the order of their second component. A number's diagonal comes from one integer square
root, so it is exact for a number of any size.
-/

namespace VoxelGrid.Diagonal

def pair (first second : Int) : Int :=
  (first + second) * (first + second + 1) / 2 + second

/-- The sum of the pair at a place. -/
def index (c : Nat) : Nat := (isqrt (8 * c + 1) - 1) / 2

def index? (c : Int) : Except Error Int :=
  if c < 0 then .error .negativeRoot else .ok (index c.toNat)

def unpairSecond (c : Int) : Except Error Int := do
  let j ← index? c
  return c - j * (j + 1) / 2

def unpairFirst (c : Int) : Except Error Int := do
  let j ← index? c
  let second ← unpairSecond c
  return j - second

def unpair (c : Int) : Except Error (Int × Int) := do
  let j ← index? c
  let second := c - j * (j + 1) / 2
  return (j - second, second)

end VoxelGrid.Diagonal
