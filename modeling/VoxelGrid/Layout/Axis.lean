/-!
The three axes of a world and values given for each of them. `y` is the vertical axis.
-/

namespace VoxelGrid

inductive Axis where
  | x
  | y
  | z
  deriving DecidableEq

def Axis.name : Axis → String
  | .x => "x"
  | .y => "y"
  | .z => "z"

structure Triple (α : Type) where
  x : α
  y : α
  z : α
  deriving DecidableEq

abbrev Position := Triple Int

namespace Triple

variable {α β ε : Type}

def map (f : α → β) (t : Triple α) : Triple β := ⟨f t.x, f t.y, f t.z⟩

def toList (t : Triple α) : List α := [t.x, t.y, t.z]

def get (t : Triple α) : Axis → α
  | .x => t.x
  | .y => t.y
  | .z => t.z

/-- Applies `f` on x, then y, then z; the first axis that fails decides. -/
def traverse (f : Axis → α → Except ε β) (t : Triple α) : Except ε (Triple β) := do
  let x ← f .x t.x
  let y ← f .y t.y
  let z ← f .z t.z
  return ⟨x, y, z⟩

/-- The values as a list between parentheses. -/
def text (t : Triple Int) : String := s!"({t.x}, {t.y}, {t.z})"

end Triple

end VoxelGrid
