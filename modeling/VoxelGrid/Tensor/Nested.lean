import VoxelGrid.Tensor.Basic

/-!
Nested lists as the written form of arrays. The shape of a nested list is read along its first
items, as far as an array has axes; the list is ragged when some item departs from that shape, and
then the axes before the outermost departure are still regular.
-/

namespace VoxelGrid

inductive Nested (α : Type) where
  | leaf (a : α)
  | node (items : List (Nested α))

namespace Nested

variable {α : Type}

instance : Inhabited (Nested α) := ⟨.node []⟩

mutual

def leaves : Nested α → List α
  | .leaf a => [a]
  | .node items => leavesAll items

def leavesAll : List (Nested α) → List α
  | [] => []
  | item :: rest => leaves item ++ leavesAll rest

end

mutual

/-- The extents met on the way along first items. -/
def spine : Nested α → Shape
  | .leaf _ => []
  | .node items => items.length :: spineFirst items

def spineFirst : List (Nested α) → Shape
  | [] => []
  | item :: _ => spine item

end

def outermost : Option Nat → Option Nat → Option Nat
  | some a, some b => some (min a b)
  | some a, none => some a
  | none, b => b

mutual

/-- The outermost depth at which the list departs from a shape. -/
def departure? : Nested α → Shape → Option Nat
  | .leaf _, [] => none
  | .leaf _, _ :: _ => some 0
  | .node _, [] => some 0
  | .node items, d :: shape =>
    if items.length = d then (departureAll? items shape).map (· + 1) else some 0

def departureAll? : List (Nested α) → Shape → Option Nat
  | [], _ => none
  | item :: rest, shape => outermost (departure? item shape) (departureAll? rest shape)

end

theorem outermost_eq_none {a b : Option Nat} : outermost a b = none ↔ a = none ∧ b = none := by
  cases a <;> cases b <;> simp [outermost]

mutual

theorem length_leaves {n : Nested α} {shape : Shape} (h : departure? n shape = none) :
    (leaves n).length = shape.size := by
  match n, shape with
  | .leaf _, [] => rfl
  | .leaf _, _ :: _ => simp [departure?] at h
  | .node _, [] => simp [departure?] at h
  | .node items, d :: shape =>
    simp only [departure?] at h
    split at h
    · next hd =>
      rw [leaves, length_leavesAll (Option.map_eq_none_iff.1 h), hd, Shape.size]
    · simp at h

theorem length_leavesAll {items : List (Nested α)} {shape : Shape}
    (h : departureAll? items shape = none) :
    (leavesAll items).length = items.length * shape.size := by
  match items with
  | [] => simp [leavesAll]
  | item :: rest =>
    obtain ⟨h1, h2⟩ := outermost_eq_none.1 h
    rw [leavesAll, List.length_append, length_leaves h1, length_leavesAll h2, List.length_cons,
      Nat.succ_mul, Nat.add_comm]

end

/-- The shape along first items, without the axes that no array has. -/
def shape (n : Nested α) : Shape := n.spine.take Shape.maxRank

/-- The array with these leaves, or the regular axes of a list that is ragged or too deep. -/
def toTensor (n : Nested α) : Except Shape (Tensor α) :=
  match h : departure? n n.shape with
  | none => .ok ⟨n.shape, n.leaves, length_leaves h⟩
  | some depth => .error (n.shape.take depth)

mutual

/-- Puts a leaf for every list at a depth. -/
def cut (stub : α) : Nat → Nested α → Nested α
  | _, .leaf a => .leaf a
  | 0, .node _ => .leaf stub
  | depth + 1, .node items => .node (cutAll stub depth items)

def cutAll (stub : α) : Nat → List (Nested α) → List (Nested α)
  | _, [] => []
  | depth, item :: rest => cut stub depth item :: cutAll stub depth rest

end

def ofCells : Shape → List α → Nested α
  | [], a :: _ => .leaf a
  | [], [] => .node []
  | d :: shape, cells => .node <| (List.range d).map fun i =>
      ofCells shape ((cells.drop (i * Shape.size shape)).take (Shape.size shape))

end Nested

def Tensor.nested {α : Type} (t : Tensor α) : Nested α := .ofCells t.shape t.cells

end VoxelGrid
