import VoxelGrid.PowerOfTwo
import VoxelGrid.Shift

/-!
Chunk layouts: for each axis the exponent of the chunk's extent. A layout is not checked when it is
made, so its exponents may be negative; what needs a shift by one of them then fails.
-/

namespace VoxelGrid

structure Layout where
  powers : Triple Int
  deriving DecidableEq

namespace Layout

/-- 32 by 64 by 32 blocks. -/
def standard : Layout := ⟨5, 6, 5⟩

def extent (power : Int) : Except Error Int := shiftLeft 1 power

/-- The binary digits of a coordinate that tell blocks of one chunk apart. -/
def mask (power : Int) : Except Error Int := (extent power).map (· - 1)

def sizes (l : Layout) : Except Error (Triple Int) := l.powers.traverse fun _ => extent

def masks (l : Layout) : Except Error (Triple Int) := l.powers.traverse fun _ => mask

/-- The number of blocks in one chunk. -/
def volume (l : Layout) : Except Error Int := l.sizes.map fun s => s.x * s.y * s.z

def ofSizes (sizes : Triple Int) : Except Error Layout :=
  (sizes.traverse fun _ => PowerOfTwo.exponentOfSize).map Layout.mk

def members (l : Layout) : List (String × Int) :=
  [("power_x", l.powers.x), ("power_y", l.powers.y), ("power_z", l.powers.z)]

def text (l : Layout) : String :=
  "ChunkLayout(" ++ ", ".intercalate (l.members.map fun (name, power) => s!"{name}={power}") ++ ")"

end Layout

end VoxelGrid
