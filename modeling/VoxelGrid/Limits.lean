/-!
Limits of chunk layouts, of keys and of the integers that are written in decimal digits. Keys are
kept to the non-negative half of a signed word, so that they survive storage as either a signed or an
unsigned one.
-/

namespace VoxelGrid

/-- The largest exponent of a valid layout. -/
def maxPower : Int := 30

def keyBits : Nat := 64

def keyMax : Int := Nat.pow 2 (keyBits - 1) - 1

/-- The most decimal digits that an integer is read or written with. -/
def maxDigits : Nat := 4300

/-- The integer can be written in decimal digits. -/
def HasNumeral (n : Int) : Prop := n.natAbs < Nat.pow 10 maxDigits

instance : DecidablePred HasNumeral := fun _ => inferInstanceAs (Decidable (_ < _))

end VoxelGrid
