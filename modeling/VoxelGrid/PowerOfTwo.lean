import VoxelGrid.Error

/-!
Powers of two. The next power of two is found by copying the highest binary digit of the number
below into every lower place, over distances that cover 64 digits.
-/

namespace VoxelGrid.PowerOfTwo

def smearDistances : List Nat := [1, 2, 4, 8, 16, 32]

def smear (n : Nat) : Nat := smearDistances.foldl (fun r distance => r ||| r >>> distance) n

/-- The least power of two from `value` on, exact up to `2 ^ 64`; 0 for a value that is not
positive. -/
def ceil (value : Int) : Int :=
  if value ≤ 0 then 0 else smear (value - 1).toNat + 1

def holds (value : Int) : Bool := 0 < value && value = ceil value

/-- How often a number can be halved before it is 1. -/
def halvings (n : Nat) : Nat := if n ≤ 1 then 0 else halvings (n / 2) + 1

/-- The exponent of a power of two; the next lower one for a number between two powers. -/
def exponent (value : Int) : Nat := halvings value.toNat

def exponentOfSize (size : Int) : Except Error Int :=
  if holds size then .ok (exponent size) else .error (Error.notPowerOfTwo size).raised

end VoxelGrid.PowerOfTwo
