import VoxelGrid.Key.Codec
import VoxelGrid.Layout.Address

/-!
Keys of chunk columns, which are the chunks with the same horizontal position.
-/

namespace VoxelGrid

namespace Key

def ofColumn (x z : Int) : Except Error Int := encode x z

def column (key : Int) : Except Error (Int × Int) := decode key

end Key

/-- The key of the column over a horizontal world position. -/
def Layout.columnKey (l : Layout) (x z : Int) : Except Error Int := do
  let chunkX ← chunkIndex x l.powers.x
  let chunkZ ← chunkIndex z l.powers.z
  Key.ofColumn chunkX chunkZ

end VoxelGrid
