/-!
Paths of files. The steps of a path are its names between slashes; a single point stays in place, so
paths that differ in repeated slashes and single points are written alike.
-/

namespace VoxelGrid.Storage

def steps (path : String) : List String := (path.toList.splitOn '/').map String.ofList

/-- A step that stays in the same directory. -/
def IsIdle (step : String) : Prop := step = "" ∨ step = "."

instance : DecidablePred IsIdle := fun _ => inferInstanceAs (Decidable (_ ∨ _))

/-- Two slashes at the start, but not three, are a root of their own. -/
def root (path : String) : String :=
  match path.toList with
  | '/' :: '/' :: '/' :: _ => "/"
  | '/' :: '/' :: _ => "//"
  | '/' :: _ => "/"
  | _ => ""

/-- The path of the steps from a root. -/
def join (root : String) (steps : List String) : String :=
  let text := root ++ "/".intercalate steps
  if text = "" then "." else text

/-- The names and the double points of a path. -/
def properSteps (path : String) : List String := (steps path).filter (¬IsIdle ·)

/-- The plainest way to write a path. -/
def normalize (path : String) : String := join (root path) (properSteps path)

/-- The most octets of a name, and of a path. -/
def maxName : Nat := 255

def maxPath : Nat := 4095

end VoxelGrid.Storage
