import VoxelGrid.Layout.Basic

/-!
Layouts as a file gives them, with any JSON value for an exponent. A draft becomes a layout when
every exponent is an integer from 0 to the largest one; the first axis that has none decides.
-/

namespace VoxelGrid

abbrev Draft := Triple Json

namespace Draft

def memberName (axis : Axis) : String := s!"power_{axis.name}"

/-- The draft in an object's members; a missing exponent is that of the standard layout. -/
def ofMembers (members : List (Text × Json)) : Draft :=
  let power axis :=
    (Json.lookup members (.ofString (memberName axis))).getD (.int (Layout.standard.powers.get axis))
  ⟨power .x, power .y, power .z⟩

def checkPower (axis : Axis) : Json → Except Error Int
  | .int n => if n < 0 ∨ maxPower < n then .error (Error.powerOutOfRange axis n).raised else .ok n
  | value => .error (Error.powerNotInteger axis value).raised

def validate (d : Draft) : Except Error Layout := (d.traverse checkPower).map Layout.mk

end Draft

/-- A layout as a draft of itself. -/
def Layout.draft (l : Layout) : Draft := l.powers.map .int

end VoxelGrid
