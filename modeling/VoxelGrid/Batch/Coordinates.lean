import VoxelGrid.Layout.Address
import VoxelGrid.Tensor.Input

/-!
Addresses of many blocks at once, over signed words. Counts and masks are words as well. A count
that is negative or past the width shifts every digit out, so no count is refused here, and positions
are the rows of an array with three columns.
-/

namespace VoxelGrid

namespace Batch

/-- Shifts right, keeping the sign; past the width only the sign is left. -/
def shiftRight (w count : Int64) : Int64 :=
  if 0 ≤ count ∧ count < 64 then w >>> count else if w < 0 then -1 else 0

def chunkIndices (coords : Tensor Int64) (power : Int64) : Tensor Int64 :=
  coords.map (shiftRight · power)

def localOffsets (coords : Tensor Int64) (mask : Int64) : Tensor Int64 :=
  coords.map (· &&& mask)

def checkPoints (points : Tensor Int64) : Except Error Unit :=
  match points.shape with
  | [_, 3] => .ok ()
  | shape => .error (.notPoints shape)

def words (values : Triple Int) : Except Error (Triple Int64) :=
  values.traverse fun _ => Scalar.int64OfInt

/-- Applies a function with one parameter for each column to the rows of a points array. -/
def mapColumns (f : Int64 → Int64 → Int64) (parameters : Triple Int64) (points : Tensor Int64) :
    Tensor Int64 :=
  let columns := parameters.toList
  ⟨points.shape, points.cells.mapIdx fun i w => f w (columns.getD (i % 3) 0), by
    rw [List.length_mapIdx, points.length_cells]⟩

def chunkPositions (points : Tensor Int64) (layout : Layout) : Except Error (Tensor Int64) := do
  checkPoints points
  let powers ← words layout.powers
  return mapColumns shiftRight powers points

/-- The vertical column is kept by a mask of all digits. -/
def blockPositions (points : Tensor Int64) (layout : Layout) : Except Error (Tensor Int64) := do
  checkPoints points
  let maskX ← Layout.mask layout.powers.x
  let maskZ ← Layout.mask layout.powers.z
  let masks ← words ⟨maskX, -1, maskZ⟩
  return mapColumns (· &&& ·) masks points

end Batch

namespace Input

def chunkIndices (coords : Input) (power : Int) : Except Error (Tensor Int64) := do
  let coords ← coords.toInt64
  return Batch.chunkIndices coords (← Scalar.int64OfInt power)

def localOffsets (coords : Input) (mask : Int) : Except Error (Tensor Int64) := do
  let coords ← coords.toInt64
  return Batch.localOffsets coords (← Scalar.int64OfInt mask)

def chunkPositions (points : Input) (layout : Layout) : Except Error (Tensor Int64) := do
  Batch.chunkPositions (← points.toInt64) layout

def blockPositions (points : Input) (layout : Layout) : Except Error (Tensor Int64) := do
  Batch.blockPositions (← points.toInt64) layout

end Input

end VoxelGrid
