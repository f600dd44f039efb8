import VoxelGrid.Error

/-!
Shifts and masks of integers of any size, in two's complement without a sign bit at the end. A shift
to the right rounds toward negative infinity; a negative count is refused.
-/

namespace VoxelGrid

def shiftLeft (n count : Int) : Except Error Int :=
  if count < 0 then .error .negativeShift
  else .ok (if n = 0 then 0 else n * Nat.pow 2 count.toNat)

def shiftRight (n count : Int) : Except Error Int :=
  if count < 0 then .error .negativeShift else .ok (n >>> count.toNat)

/-- The binary digits that `w` and `mask` have in common. -/
def maskBits : Int → Int → Int
  | .ofNat w, .ofNat mask => .ofNat (w &&& mask)
  | .ofNat w, .negSucc mask => .ofNat (w ^^^ (w &&& mask))
  | .negSucc w, .ofNat mask => .ofNat (mask ^^^ (mask &&& w))
  | .negSucc w, .negSucc mask => .negSucc (w ||| mask)

theorem shiftLeft_of_nonneg {count : Int} (n : Int) (h : 0 ≤ count) :
    shiftLeft n count = .ok (n * Nat.pow 2 count.toNat) := by
  rw [shiftLeft, if_neg (by omega)]
  split
  · simp [*]
  · rfl

theorem shiftRight_of_nonneg {count : Int} (n : Int) (h : 0 ≤ count) :
    shiftRight n count = .ok (n / Nat.pow 2 count.toNat) := by
  rw [shiftRight, if_neg (by omega), Int.shiftRight_eq_div_pow]
  rfl

end VoxelGrid
