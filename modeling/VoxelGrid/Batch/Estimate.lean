import VoxelGrid.Number.Root
import VoxelGrid.Number.Rounding

/-!
A floating-point estimate of the diagonal of a key: the whole part of `sqrt (2 c + 1/4) - 1/2`, each
step rounded to 53 binary digits. Every intermediate value is a natural number over a fixed power of
two, so the estimate is worked out in natural numbers alone.
-/

namespace VoxelGrid.Batch.Estimate

open Rounding

def precision : Nat := 53

/-- Fraction digits of the square root before it is rounded. They are more than the precision and
one digit beyond, so a last odd digit can stand for all that the root leaves over. -/
def rootDigits : Nat := 64

/-- The key as a floating-point number. -/
def converted (c : Nat) : Nat := roundBits precision c

/-- Twice the key and a quarter, in quarters. -/
def radicand (c : Nat) : Nat := roundBits precision (8 * converted c + 1)

/-- Its square root, in parts of `2 ^ (rootDigits + 2)`. -/
def root (c : Nat) : Nat :=
  let square := radicand c * Nat.pow 4 rootDigits
  let r := isqrt square
  roundBits precision (if r * r = square then 2 * r else 2 * r + 1)

def diagonal (c : Nat) : Nat :=
  roundBits precision (root c - Nat.pow 2 (rootDigits + 1)) / Nat.pow 2 (rootDigits + 2)

end VoxelGrid.Batch.Estimate
