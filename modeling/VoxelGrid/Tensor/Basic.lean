import VoxelGrid.Tensor.Shape

/-!
Arrays of any rank: a shape with its cells in row-major order. Operations on two arrays first bring
them to one array of pairs over the common shape.
-/

namespace VoxelGrid

structure Tensor (α : Type) where
  shape : Shape
  cells : List α
  length_cells : cells.length = shape.size
  deriving DecidableEq

namespace Tensor

variable {α β ε : Type}

def size (t : Tensor α) : Nat := t.cells.length

def get? (t : Tensor α) (index : List Nat) : Option α :=
  if t.shape.Contains index then t.cells[t.shape.offset index]? else none

def ofFn (shape : Shape) (f : List Nat → α) : Tensor α :=
  ⟨shape, shape.indices.map f, by rw [List.length_map, Shape.length_indices]⟩

def map (f : α → β) (t : Tensor α) : Tensor β :=
  ⟨t.shape, t.cells.map f, by rw [List.length_map, t.length_cells]⟩

def any (p : α → Bool) (t : Tensor α) : Bool := t.cells.any p

def traverseCells (f : α → Except ε β) :
    (cells : List α) → Except ε { r : List β // r.length = cells.length }
  | [] => .ok ⟨[], rfl⟩
  | a :: rest =>
    match f a with
    | .error e => .error e
    | .ok b =>
      match traverseCells f rest with
      | .error e => .error e
      | .ok ⟨bs, h⟩ => .ok ⟨b :: bs, by rw [List.length_cons, h, List.length_cons]⟩

/-- Converts the cells in order; the first one that fails decides. -/
def traverse (f : α → Except ε β) (t : Tensor α) : Except ε (Tensor β) :=
  match traverseCells f t.cells with
  | .error e => .error e
  | .ok ⟨cells, h⟩ => .ok ⟨t.shape, cells, h.trans t.length_cells⟩

/-- The cell that a wider array shows at an index. -/
def stretched [Inhabited α] (t : Tensor α) (index : List Nat) : α :=
  t.cells.getD (t.shape.offset (t.shape.restrict index)) default

/-- The pairs of cells that meet when both arrays are stretched to their common shape. -/
def zip? [Inhabited α] [Inhabited β] (a : Tensor α) (b : Tensor β) : Option (Tensor (α × β)) :=
  (a.shape.join? b.shape).map fun shape =>
    ofFn shape fun index => (a.stretched index, b.stretched index)

end Tensor

end VoxelGrid
