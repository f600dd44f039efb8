/-!
Where a program runs: how wide the screen is, and how much room there is for reading nested values.
-/

namespace VoxelGrid

/-- `columns` is the width of the screen, `nesting` the most containers of a file that may hold one
another. -/
structure Host where
  columns : Nat
  nesting : Nat

/-- A wide screen, and the room that is left of a stack of 1000 calls. -/
def Host.standard : Host := ⟨1000, 989⟩

end VoxelGrid
