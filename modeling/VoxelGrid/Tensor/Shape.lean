/-!
Shapes of arrays, in row-major order. Two shapes fit together when, aligned at their last axes, the
extents on each axis are equal or one of them is 1; the axis of extent 1 is then read at index 0.
-/

namespace VoxelGrid

abbrev Shape := List Nat

namespace Shape

/-- The most axes of an array. -/
def maxRank : Nat := 64

/-- The most axes of an array that is brought to a common shape with another. -/
def maxJoinRank : Nat := 32

/-- The number of cells. -/
def size : Shape → Nat
  | [] => 1
  | d :: shape => d * size shape

def Contains : Shape → List Nat → Prop
  | [], [] => True
  | d :: shape, i :: index => i < d ∧ Contains shape index
  | _, _ => False

instance decidableContains : ∀ (shape : Shape) (index : List Nat), Decidable (shape.Contains index)
  | [], [] => .isTrue trivial
  | _ :: shape, _ :: index =>
    have := decidableContains shape index
    inferInstanceAs (Decidable (_ ∧ _))
  | [], _ :: _ => .isFalse id
  | _ :: _, [] => .isFalse id

/-- Where the cell at an index stands among all cells. -/
def offset : Shape → List Nat → Nat
  | _ :: shape, i :: index => i * size shape + offset shape index
  | _, _ => 0

/-- Every index of a shape, the last axis running fastest. -/
def indices : Shape → List (List Nat)
  | [] => [[]]
  | d :: shape => (List.range d).flatMap fun i => (indices shape).map (i :: ·)

theorem length_indices (shape : Shape) : (indices shape).length = shape.size := by
  induction shape with
  | nil => rfl
  | cons d shape ih =>
    simp only [indices, size, List.length_flatMap, List.length_map, ih]
    induction d with
    | zero => exact (Nat.zero_mul _).symm
    | succ d hd =>
      rw [List.range_succ, List.map_append, List.sum_append, hd, Nat.succ_mul, List.map_singleton,
        List.sum_singleton]

/-- The common shape of two shapes given from their last axes on. -/
def joinReversed? : List Nat → List Nat → Option (List Nat)
  | [], b => some b
  | a, [] => some a
  | m :: a, n :: b => do
    let rest ← joinReversed? a b
    if m = n ∨ n = 1 then some (m :: rest)
    else if m = 1 then some (n :: rest)
    else none

def join? (a b : Shape) : Option Shape := (joinReversed? a.reverse b.reverse).map List.reverse

/-- The index at which an array of this shape is read for an index of a wider shape. -/
def restrict (shape : Shape) (index : List Nat) : List Nat :=
  (shape.zip (index.drop (index.length - shape.length))).map fun (d, i) => if d = 1 then 0 else i

def text (shape : Shape) : String :=
  match shape with
  | [] => "()"
  | [d] => s!"({d},)"
  | _ => "(" ++ ", ".intercalate (shape.map toString) ++ ")"

end Shape

end VoxelGrid
