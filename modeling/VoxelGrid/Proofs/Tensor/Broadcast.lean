import Mathlib.Data.List.Forall2
import Mathlib.Data.List.GetD
import VoxelGrid.Proofs.Tensor.Index

/-! Two arrays over a common shape. The rule is stated axis by axis, counted from the last axis, and
`join?` is shown to follow it; each index of the common shape then has a cell in both arrays. -/

namespace VoxelGrid

namespace Shape

/-- The extent of the axis `k` places before the last. An axis that a shape lacks counts as 1. -/
def extent (shape : Shape) (k : Nat) : Nat := shape.reverse.getD k 1

/-- Extents `m` and `n` fit together and give `d`: they are equal or one of them is 1, and `d` is
the other one. -/
def ExtentsJoin (m n d : Nat) : Prop := (m = n ∨ n = 1) ∧ d = m ∨ m = 1 ∧ d = n

structure Joins (a b s : Shape) : Prop where
  rank : s.length = max a.length b.length
  extents : ∀ k, ExtentsJoin (a.extent k) (b.extent k) (s.extent k)

theorem ExtentsJoin.symm {m n d : Nat} (h : ExtentsJoin m n d) : ExtentsJoin n m d := by
  rw [ExtentsJoin] at h ⊢
  omega

theorem Joins.refl (a : Shape) : Joins a a a :=
  ⟨(Nat.max_self _).symm, fun _ => .inl ⟨.inl rfl, rfl⟩⟩

theorem Joins.symm {a b s : Shape} (h : Joins a b s) : Joins b a s :=
  ⟨h.rank.trans (Nat.max_comm ..), fun k => (h.extents k).symm⟩

theorem ExtentsJoin.left {m n d : Nat} (h : ExtentsJoin m n d) : m = d ∨ m = 1 := by
  rw [ExtentsJoin] at h
  omega

theorem eq_of_extentsJoin_one {b s : List Nat} (hlength : s.length = b.length)
    (h : ∀ k, ExtentsJoin 1 (b.getD k 1) (s.getD k 1)) : b = s := by
  apply List.ext_getElem hlength.symm
  intro k hb hs
  have hk := h k
  rw [List.getD_eq_getElem _ _ hb, List.getD_eq_getElem _ _ hs, ExtentsJoin] at hk
  omega

theorem joinReversed?_cons_eq_some_iff {m n : Nat} {a b s : List Nat} :
    joinReversed? (m :: a) (n :: b) = some s ↔
      ∃ d rest, s = d :: rest ∧ ExtentsJoin m n d ∧ joinReversed? a b = some rest := by
  simp only [joinReversed?, Option.bind_eq_bind, Option.bind_eq_some_iff]
  constructor
  · rintro ⟨rest, hrest, h⟩
    split at h
    · next hm =>
      cases h
      exact ⟨m, rest, rfl, .inl ⟨hm, rfl⟩, hrest⟩
    · split at h
      · next hm =>
        cases h
        exact ⟨n, rest, rfl, .inr ⟨hm, rfl⟩, hrest⟩
      · cases h
  · rintro ⟨d, rest, rfl, h, hrest⟩
    refine ⟨rest, hrest, ?_⟩
    rw [ExtentsJoin] at h
    split
    · next hm => rw [show d = m by omega]
    · next hm => rw [if_pos (by omega), show d = n by omega]

theorem joinReversed?_eq_some_iff {a b s : List Nat} :
    joinReversed? a b = some s ↔
      s.length = max a.length b.length ∧
        ∀ k, ExtentsJoin (a.getD k 1) (b.getD k 1) (s.getD k 1) := by
  induction a, b using joinReversed?.induct generalizing s with
  | case1 b =>
    rw [joinReversed?, Option.some_inj]
    constructor
    · rintro rfl
      simp [ExtentsJoin]
    · rintro ⟨hlength, hextents⟩
      exact eq_of_extentsJoin_one (by simpa using hlength) (by simpa using hextents)
  | case2 a h =>
    rw [joinReversed?.eq_2 a h, Option.some_inj]
    constructor
    · rintro rfl
      simp [ExtentsJoin]
    · rintro ⟨hlength, hextents⟩
      refine eq_of_extentsJoin_one (by simpa using hlength) fun k => ?_
      simpa using (hextents k).symm
  | case3 m a n b ih =>
    rw [joinReversed?_cons_eq_some_iff]
    constructor
    · rintro ⟨d, rest, rfl, h, hrest⟩
      obtain ⟨hlength, hextents⟩ := ih.mp hrest
      refine ⟨by simp only [List.length_cons]; omega, fun k => ?_⟩
      cases k with
      | zero => exact h
      | succ k => exact hextents k
    · rintro ⟨hlength, hextents⟩
      cases s with
      | nil => simp only [List.length_cons, List.length_nil] at hlength; omega
      | cons d rest =>
        simp only [List.length_cons] at hlength
        exact ⟨d, rest, rfl, hextents 0, ih.mpr ⟨by omega, fun k => hextents (k + 1)⟩⟩

theorem join?_eq_some_iff {a b s : Shape} : a.join? b = some s ↔ Joins a b s := by
  rw [join?, Option.map_eq_some_iff]
  constructor
  · rintro ⟨r, hr, rfl⟩
    obtain ⟨hlength, hextents⟩ := joinReversed?_eq_some_iff.mp hr
    refine ⟨by simpa using hlength, fun k => ?_⟩
    simpa [extent] using hextents k
  · rintro ⟨hlength, hextents⟩
    refine ⟨s.reverse, joinReversed?_eq_some_iff.mpr ⟨by simpa using hlength, hextents⟩, ?_⟩
    exact List.reverse_reverse s

theorem length_of_contains {shape : Shape} {index : List Nat} (h : shape.Contains index) :
    index.length = shape.length := by
  induction h using Contains.induction with
  | nil => rfl
  | cons d shape i index hi h ih => rw [List.length_cons, List.length_cons, ih]

theorem contains_drop {shape : Shape} {index : List Nat} (h : shape.Contains index) (n : Nat) :
    Contains (shape.drop n) (index.drop n) := by
  induction h using Contains.induction generalizing n with
  | nil =>
    rw [List.drop_nil]
    trivial
  | cons d shape i index hi h ih =>
    cases n with
    | zero => exact ⟨hi, h⟩
    | succ n => exact ih n

theorem contains_shrunk {a s : Shape} {index : List Nat}
    (h : List.Forall₂ (fun m d => m = d ∨ m = 1) a s) (hcontains : s.Contains index) :
    a.Contains ((a.zip index).map fun (d, i) => if d = 1 then 0 else i) := by
  induction h generalizing index with
  | nil => trivial
  | cons hm _ ih =>
    cases index with
    | nil => exact hcontains.elim
    | cons i index =>
      refine ⟨?_, ih hcontains.2⟩
      have hi := hcontains.1
      dsimp only
      split <;> omega

theorem shrunk_of_contains {shape : Shape} {index : List Nat} (h : shape.Contains index) :
    (shape.zip index).map (fun (d, i) => if d = 1 then 0 else i) = index := by
  induction h using Contains.induction with
  | nil => rfl
  | cons d shape i index hi h ih =>
    rw [List.zip_cons_cons, List.map_cons, ih, List.cons.injEq]
    refine ⟨?_, rfl⟩
    dsimp only
    split <;> omega

/-- An array is read at its own indices as they are. -/
theorem restrict_of_contains {shape : Shape} {index : List Nat} (h : shape.Contains index) :
    shape.restrict index = index := by
  rw [restrict, length_of_contains h, Nat.sub_self, List.drop_zero, shrunk_of_contains h]

theorem extent_of_lt {shape : Shape} {i : Nat} (h : i < shape.length) :
    shape.extent (shape.length - 1 - i) = shape[i] := by
  rw [extent, List.getD_eq_getElem _ _ (by rw [List.length_reverse]; omega), List.getElem_reverse]
  congr 1
  omega

theorem forall₂_drop {a s : Shape} (hrank : a.length ≤ s.length)
    (h : ∀ k, a.extent k = s.extent k ∨ a.extent k = 1) :
    List.Forall₂ (fun m d => m = d ∨ m = 1) a (s.drop (s.length - a.length)) := by
  rw [List.forall₂_iff_get]
  refine ⟨by rw [List.length_drop]; omega, fun i hi hs => ?_⟩
  have hk := h (a.length - 1 - i)
  have hlast : a.length - 1 - i = s.length - 1 - (s.length - a.length + i) := by omega
  rw [extent_of_lt hi, hlast, extent_of_lt (by omega)] at hk
  simpa using hk

theorem Joins.contains_restrict {a b s : Shape} (h : Joins a b s) {index : List Nat}
    (hcontains : s.Contains index) : a.Contains (a.restrict index) := by
  have hrank : a.length ≤ s.length := h.rank ▸ Nat.le_max_left ..
  have hfits := forall₂_drop hrank fun k => (h.extents k).left
  have hlast := contains_shrunk hfits (contains_drop hcontains (s.length - a.length))
  rwa [restrict, length_of_contains hcontains]

end Shape

namespace Tensor

variable {α β : Type}

/-- The cells of two arrays that come together at an index of their common shape. -/
structure Meet (a : Tensor α) (b : Tensor β) (s : Shape) (index : List Nat) (x : α) (y : β) :
    Prop where
  contains : s.Contains index
  first : a.get? (a.shape.restrict index) = some x
  second : b.get? (b.shape.restrict index) = some y

theorem exists_meet {a : Tensor α} {b : Tensor β} {s : Shape} (h : a.shape.Joins b.shape s)
    {index : List Nat} (hcontains : s.Contains index) : ∃ x y, Meet a b s index x y := by
  obtain ⟨x, hx⟩ := exists_get? (h.contains_restrict hcontains)
  obtain ⟨y, hy⟩ := exists_get? (h.symm.contains_restrict hcontains)
  exact ⟨x, y, hcontains, hx, hy⟩

theorem meet_map_iff {γ δ : Type} {f : α → γ} {g : β → δ} {a : Tensor α} {b : Tensor β} {s : Shape}
    {index : List Nat} {u : γ} {v : δ} :
    Meet (a.map f) (b.map g) s index u v ↔ ∃ x y, Meet a b s index x y ∧ f x = u ∧ g y = v := by
  constructor
  · rintro ⟨hcontains, hu, hv⟩
    rw [get?_map, Option.map_eq_some_iff] at hu hv
    obtain ⟨x, hx, rfl⟩ := hu
    obtain ⟨y, hy, rfl⟩ := hv
    exact ⟨x, y, ⟨hcontains, hx, hy⟩, rfl, rfl⟩
  · rintro ⟨x, y, ⟨hcontains, hx, hy⟩, rfl, rfl⟩
    exact ⟨hcontains, by simp [hx], by simp [hy]⟩

theorem stretched_of_get? [Inhabited α] {t : Tensor α} {index : List Nat} {a : α}
    (h : t.get? (t.shape.restrict index) = some a) : t.stretched index = a := by
  rw [get?_of_contains (contains_of_get? h)] at h
  rw [stretched, List.getD_eq_getElem?_getD, h, Option.getD_some]

theorem zip?_eq_some [Inhabited α] [Inhabited β] {a : Tensor α} {b : Tensor β} {s : Shape}
    (h : a.shape.Joins b.shape s) :
    a.zip? b = some (ofFn s fun index => (a.stretched index, b.stretched index)) := by
  rw [zip?, Shape.join?_eq_some_iff.mpr h, Option.map_some]

theorem get?_zip?_iff [Inhabited α] [Inhabited β] {a : Tensor α} {b : Tensor β} {s : Shape}
    (h : a.shape.Joins b.shape s) {pairs : Tensor (α × β)} (hzip : a.zip? b = some pairs)
    {index : List Nat} {x : α} {y : β} :
    pairs.get? index = some (x, y) ↔ Meet a b s index x y := by
  rw [zip?_eq_some h, Option.some_inj] at hzip
  subst hzip
  constructor
  · intro hget
    have hcontains : s.Contains index := contains_of_get? hget
    obtain ⟨x', y', hmeet⟩ := exists_meet h hcontains
    rw [get?_ofFn _ hcontains, stretched_of_get? hmeet.first, stretched_of_get? hmeet.second]
      at hget
    cases hget
    exact hmeet
  · intro hmeet
    rw [get?_ofFn _ hmeet.contains, stretched_of_get? hmeet.first, stretched_of_get? hmeet.second]

end Tensor

end VoxelGrid
