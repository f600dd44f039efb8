/-!
The zig-zag order of the integers: 0, -1, 1, -2, 2 and so on stand at 0, 1, 2, 3, 4.
-/

namespace VoxelGrid.ZigZag

def fold (x : Int) : Int := if 0 ≤ x then x * 2 else -x * 2 - 1

def unfold (y : Int) : Int := if y % 2 = 0 then y / 2 else -(y / 2) - 1

theorem unfold_fold (x : Int) : unfold (fold x) = x := by
  simp only [fold, unfold]; split <;> split <;> omega

theorem fold_unfold {y : Int} (h : 0 ≤ y) : fold (unfold y) = y := by
  simp only [fold, unfold]; split <;> split <;> omega

theorem fold_nonneg (x : Int) : 0 ≤ fold x := by
  simp only [fold]; split <;> omega

end VoxelGrid.ZigZag
