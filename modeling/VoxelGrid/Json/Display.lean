import VoxelGrid.Json.Value
import VoxelGrid.Number.Shortest
import VoxelGrid.Text.Quoted

/-!
JSON values as messages show them: quoted text, shortest floating-point numbers, and capitalised
names for the three constants.
-/

namespace VoxelGrid.Json

mutual

def display : Json → String
  | .null => "None"
  | .bool b => if b then "True" else "False"
  | .int n => toString n
  | .float x => x.text
  | .string t => t.quoted
  | .array items => "[" ++ ", ".intercalate (displayItems items) ++ "]"
  | .object members => "\x7b" ++ ", ".intercalate (displayMembers members) ++ "\x7d"

def displayItems : List Json → List String
  | [] => []
  | v :: rest => v.display :: displayItems rest

def displayMembers : List (Text × Json) → List String
  | [] => []
  | (name, v) :: rest => (name.quoted ++ ": " ++ v.display) :: displayMembers rest

end

mutual

/-- The integers that a value is shown with. -/
def integers : Json → List Int
  | .int n => [n]
  | .array items => integersOfItems items
  | .object members => integersOfMembers members
  | _ => []

def integersOfItems : List Json → List Int
  | [] => []
  | v :: rest => v.integers ++ integersOfItems rest

def integersOfMembers : List (Text × Json) → List Int
  | [] => []
  | (_, v) :: rest => v.integers ++ integersOfMembers rest

end

end VoxelGrid.Json
