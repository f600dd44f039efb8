import VoxelGrid.Key.Diagonal
import VoxelGrid.Key.ZigZag

/-!
Keys of signed pairs: both components are folded onto the natural numbers and the two results are
counted along diagonals. A key lies between 0 and the largest signed word.
-/

namespace VoxelGrid.Key

/-- The place of a pair of natural numbers, where it is a key. -/
def ofNonNegative (first second : Int) : Except Error Int :=
  if first < 0 ∨ second < 0 then .error (Error.negativeComponents first second).raised
  else
    let key := Diagonal.pair first second
    if keyMax < key then .error (Error.keyTooLarge first second key).raised else .ok key

def encode (x y : Int) : Except Error Int := ofNonNegative (ZigZag.fold x) (ZigZag.fold y)

def decode (c : Int) : Except Error (Int × Int) :=
  if c < 0 ∨ keyMax < c then .error (Error.keyOutOfRange c).raised
  else (Diagonal.unpair c).map fun (first, second) => (ZigZag.unfold first, ZigZag.unfold second)

end VoxelGrid.Key
