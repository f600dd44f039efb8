import VoxelGrid.Tensor.Basic

/-! Indices of an array and the places of its cells. Row-major order gives every index of the shape
a place of its own, so a cell is the same as a readable index. -/

namespace VoxelGrid

theorem getElem?_flatMap_of_length {α β : Type} {f : α → List β} {n : Nat} {l : List α}
    (h : ∀ a ∈ l, (f a).length = n) (i : Nat) {k : Nat} (hk : k < n) :
    (l.flatMap f)[i * n + k]? = l[i]?.bind fun a => (f a)[k]? := by
  induction l generalizing i with
  | nil => simp
  | cons a l ih =>
    have ha : (f a).length = n := h a (List.mem_cons_self ..)
    rw [List.flatMap_cons]
    cases i with
    | zero => simp [List.getElem?_append_left, ha, hk]
    | succ i =>
      have hsub : (i + 1) * n + k - (f a).length = i * n + k := by
        rw [ha, Nat.succ_mul]
        omega
      rw [List.getElem?_append_right (by rw [ha, Nat.succ_mul]; omega), hsub]
      simpa using ih (fun b hb => h b (List.mem_cons_of_mem _ hb)) i

namespace Shape

/-- Axis by axis: an index of a shape has one place for every extent. -/
@[elab_as_elim]
theorem Contains.induction
    {motive : (shape : Shape) → (index : List Nat) → shape.Contains index → Prop}
    (nil : motive [] [] trivial)
    (cons : ∀ (d : Nat) (shape : Shape) (i : Nat) (index : List Nat) (hi : i < d)
      (h : shape.Contains index), motive shape index h → motive (d :: shape) (i :: index) ⟨hi, h⟩)
    {shape : Shape} {index : List Nat} (h : shape.Contains index) : motive shape index h := by
  induction shape generalizing index with
  | nil =>
    cases index with
    | nil => exact nil
    | cons i index => exact h.elim
  | cons d shape ih =>
    cases index with
    | nil => exact h.elim
    | cons i index => exact cons d shape i index h.1 h.2 (ih h.2)

theorem offset_lt_size {shape : Shape} {index : List Nat} (h : shape.Contains index) :
    shape.offset index < shape.size := by
  induction h using Contains.induction with
  | nil => exact Nat.one_pos
  | cons d shape i index hi h ih =>
    have hrow : (i + 1) * size shape ≤ d * size shape := Nat.mul_le_mul_right _ hi
    rw [Nat.succ_mul] at hrow
    rw [offset, size]
    omega

theorem indices_getElem?_offset {shape : Shape} {index : List Nat} (h : shape.Contains index) :
    shape.indices[shape.offset index]? = some index := by
  induction h using Contains.induction with
  | nil => rfl
  | cons d shape i index hi h ih =>
    have hlength : ∀ j ∈ List.range d, ((indices shape).map (j :: ·)).length = size shape := by
      intro j _
      rw [List.length_map, length_indices]
    rw [indices, offset, getElem?_flatMap_of_length hlength i (offset_lt_size h),
      List.getElem?_range hi]
    simp [ih]

theorem exists_offset_eq {shape : Shape} {n : Nat} (h : n < shape.size) :
    ∃ index, shape.Contains index ∧ shape.offset index = n := by
  induction shape generalizing n with
  | nil => exact ⟨[], trivial, (Nat.lt_one_iff.mp h).symm⟩
  | cons d shape ih =>
    rw [size] at h
    have hpos : 0 < size shape := Nat.pos_of_mul_pos_left (Nat.zero_lt_of_lt h)
    obtain ⟨index, hcontains, hoffset⟩ := ih (Nat.mod_lt n hpos)
    refine ⟨n / size shape :: index, ⟨Nat.div_lt_of_lt_mul (Nat.mul_comm .. ▸ h), hcontains⟩, ?_⟩
    rw [offset, hoffset, Nat.mul_comm]
    exact Nat.div_add_mod n (size shape)

end Shape

namespace Tensor

variable {α β : Type}

theorem get?_of_contains {t : Tensor α} {index : List Nat} (h : t.shape.Contains index) :
    t.get? index = t.cells[t.shape.offset index]? := if_pos h

theorem contains_of_get? {t : Tensor α} {index : List Nat} {a : α} (h : t.get? index = some a) :
    t.shape.Contains index := by
  by_cases hcontains : t.shape.Contains index
  · exact hcontains
  · rw [get?, if_neg hcontains] at h
    cases h

theorem exists_get? {t : Tensor α} {index : List Nat} (h : t.shape.Contains index) :
    ∃ a, t.get? index = some a := by
  have hlt : t.shape.offset index < t.cells.length := by
    rw [t.length_cells]
    exact Shape.offset_lt_size h
  exact ⟨t.cells[t.shape.offset index], by rw [get?_of_contains h, List.getElem?_eq_getElem hlt]⟩

theorem mem_cells_iff {t : Tensor α} {a : α} : a ∈ t.cells ↔ ∃ index, t.get? index = some a := by
  constructor
  · intro h
    obtain ⟨n, hn, rfl⟩ := List.getElem_of_mem h
    obtain ⟨index, hcontains, rfl⟩ := Shape.exists_offset_eq (t.length_cells ▸ hn)
    exact ⟨index, by rw [get?_of_contains hcontains, List.getElem?_eq_getElem hn]⟩
  · rintro ⟨index, h⟩
    rw [get?_of_contains (contains_of_get? h)] at h
    exact List.mem_of_getElem? h

section Any

variable {t : Tensor α} {P : α → Prop} [DecidablePred P]

theorem any_decide_iff_mem : (t.any fun a => decide (P a)) = true ↔ ∃ a ∈ t.cells, P a := by
  simp only [any, List.any_eq_true, decide_eq_true_eq]

theorem any_decide_iff :
    (t.any fun a => decide (P a)) = true ↔ ∃ index a, t.get? index = some a ∧ P a := by
  simp only [any_decide_iff_mem, mem_cells_iff]
  grind

end Any

@[simp] theorem shape_map (f : α → β) (t : Tensor α) : (t.map f).shape = t.shape := rfl

@[simp] theorem any_map (p : β → Bool) (f : α → β) (t : Tensor α) :
    (t.map f).any p = t.any fun a => p (f a) := by
  simp [any, map, Function.comp_def]

@[simp] theorem get?_map (f : α → β) (t : Tensor α) (index : List Nat) :
    (t.map f).get? index = (t.get? index).map f := by
  by_cases h : t.shape.Contains index
  · rw [get?_of_contains h, get?_of_contains (t := t.map f) h, map, List.getElem?_map]
  · simp [get?, h]

theorem get?_ofFn {shape : Shape} {index : List Nat} (f : List Nat → α)
    (h : shape.Contains index) : (ofFn shape f).get? index = some (f index) := by
  rw [get?_of_contains (t := ofFn shape f) h, ofFn, List.getElem?_map,
    Shape.indices_getElem?_offset h, Option.map_some]

end Tensor

end VoxelGrid
