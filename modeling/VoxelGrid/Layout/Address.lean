import VoxelGrid.Layout.Basic

/-!
Addresses of blocks: the chunk of a world position and the block's place in that chunk. The chunk is
the coordinate shifted right, the place the digits shifted out. The vertical coordinate is chunked
but never masked, since a column of chunks is unbounded upward.
-/

namespace VoxelGrid

structure Address where
  chunk : Position
  block : Position
  deriving DecidableEq

/-- Two corners, both inclusive. -/
structure Region where
  low : Position
  high : Position
  deriving DecidableEq

/-- Takes a list of coordinates apart. -/
def Triple.ofList {α : Type} : List α → Except Error (Triple α)
  | [x, y, z] => .ok ⟨x, y, z⟩
  | _ :: _ :: _ :: _ :: _ => .error .tooManyCoordinates
  | few => .error (.tooFewCoordinates few.length)

def chunkIndex (w power : Int) : Except Error Int := shiftRight w power

def localOffset (w mask : Int) : Int := maskBits w mask

def verticalOffset (y : Int) : Int := y

def minBlock (chunk power : Int) : Except Error Int := shiftLeft chunk power

def maxBlock (chunk power : Int) : Except Error Int :=
  (shiftLeft (chunk + 1) power).map (· - 1)

def chunkPosition (p : Position) (powers : Triple Int) : Except Error Position :=
  p.traverse fun axis w => chunkIndex w (powers.get axis)

def blockPosition (p : Position) (masks : Triple Int) : Position :=
  ⟨localOffset p.x masks.x, verticalOffset p.y, localOffset p.z masks.z⟩

namespace Layout

def split (l : Layout) (p : Position) : Except Error Address := do
  let chunk ← chunkPosition p l.powers
  let masks ← l.masks
  return ⟨chunk, blockPosition p masks⟩

/-- The chunks within a horizontal distance of a position, at the height of that position. -/
def regionAround (l : Layout) (p : Position) (extent : Int) : Except Error Region := do
  if extent < 0 then throw (Error.negativeExtent extent).raised
  let low ← chunkPosition ⟨p.x - extent, p.y, p.z - extent⟩ l.powers
  let high ← chunkPosition ⟨p.x + extent, p.y, p.z + extent⟩ l.powers
  return ⟨low, high⟩

/-- The region around a list of coordinates, which is looked at after the extent. -/
def regionAroundList (l : Layout) (coordinates : List Int) (extent : Int) : Except Error Region := do
  if extent < 0 then throw (Error.negativeExtent extent).raised
  l.regionAround (← Triple.ofList coordinates) extent

end Layout

end VoxelGrid
