import VoxelGrid.Number.Binary64
import VoxelGrid.Text.CodePoint

/-!
JSON values. A number written without fraction and exponent is an integer of any size, every other
one is a floating-point number. An object binds each name once: binding a name again replaces its
value and keeps its place.
-/

namespace VoxelGrid

inductive Json where
  | null
  | bool (b : Bool)
  | int (n : Int)
  | float (x : Binary64)
  | string (t : Text)
  | array (items : List Json)
  | object (members : List (Text × Json))

namespace Json

instance : Inhabited Json := ⟨.null⟩

def bind (members : List (Text × Json)) (name : Text) (value : Json) : List (Text × Json) :=
  match members with
  | [] => [(name, value)]
  | (n, v) :: rest => if n = name then (name, value) :: rest else (n, v) :: bind rest name value

def lookup (members : List (Text × Json)) (name : Text) : Option Json :=
  match members with
  | [] => none
  | (n, v) :: rest => if n = name then some v else lookup rest name

theorem lookup_bind (members : List (Text × Json)) (name other : Text) (value : Json) :
    lookup (bind members name value) other =
      if other = name then some value else lookup members other := by
  induction members with
  | nil => simp [bind, lookup, eq_comm]
  | cons m rest ih =>
    obtain ⟨n, v⟩ := m
    by_cases hn : n = name
    · subst hn; by_cases ho : n = other <;> grind [bind, lookup]
    · by_cases ho : n = other
      · subst ho; simp [bind, lookup, hn]
      · simp [bind, lookup, hn, ho, ih]

/-- The object with these bindings made in turn. -/
def ofBindings (bindings : List (Text × Json)) : Json :=
  .object (bindings.foldl (fun members (name, value) => bind members name value) [])

def get? (name : String) : Json → Option Json
  | .object members => lookup members (.ofString name)
  | _ => none

end Json

end VoxelGrid
