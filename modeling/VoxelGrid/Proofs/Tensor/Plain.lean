import Mathlib.Tactic.SplitIfs
import VoxelGrid.Proofs.Tensor.Broadcast
import VoxelGrid.Proofs.Tensor.Words

/-! Plain lists of integers as they are handed in. A list is an array with one axis; its integers are
converted to words as long as all of them fit, and the type inferred for it is a type of words
exactly when its integers are all of that one kind. -/

namespace VoxelGrid

namespace Tensor

variable {α β ε : Type}

theorem ext {s t : Tensor α} (hshape : s.shape = t.shape) (hcells : s.cells = t.cells) : s = t := by
  cases s
  cases t
  simp only [Tensor.mk.injEq]
  exact ⟨hshape, hcells⟩

def ofList (l : List α) : Tensor α := ⟨[l.length], l, (Nat.mul_one _).symm⟩

@[simp] theorem map_ofList (f : α → β) (l : List α) : (ofList l).map f = ofList (l.map f) := by
  simp [ofList, map]

theorem get?_ofList (l : List α) (i : Nat) : (ofList l).get? [i] = l[i]? := by
  by_cases h : i < l.length
  · have hcontains : (ofList l).shape.Contains [i] := ⟨h, trivial⟩
    have hoffset : (ofList l).shape.offset [i] = i := Nat.mul_one i
    rw [get?_of_contains hcontains, hoffset]
    rfl
  · rw [List.getElem?_eq_none (Nat.le_of_not_lt h)]
    exact if_neg fun hcontains => h hcontains.1

theorem contains_singleton_iff {n : Nat} {index : List Nat} :
    Shape.Contains [n] index ↔ ∃ i < n, index = [i] := by
  match index with
  | [] => simp [Shape.Contains]
  | [i] => simp [Shape.Contains]
  | i :: j :: index => simp [Shape.Contains]

theorem meet_ofList_iff {xs : List α} {ys : List β} (h : xs.length = ys.length) {i : Nat} {x : α}
    {y : β} :
    Meet (.ofList xs) (.ofList ys) [xs.length] [i] x y ↔ xs[i]? = some x ∧ ys[i]? = some y := by
  have hshape : (ofList ys).shape = [xs.length] := congrArg (fun n => [n]) h.symm
  have hread : ∀ hcontains : Shape.Contains [xs.length] [i],
      (ofList xs).shape.restrict [i] = [i] ∧ (ofList ys).shape.restrict [i] = [i] :=
    fun hcontains => ⟨Shape.restrict_of_contains hcontains,
      hshape ▸ Shape.restrict_of_contains hcontains⟩
  constructor
  · rintro ⟨hcontains, hx, hy⟩
    rw [(hread hcontains).1, get?_ofList] at hx
    rw [(hread hcontains).2, get?_ofList] at hy
    exact ⟨hx, hy⟩
  · rintro ⟨hx, hy⟩
    have hcontains : Shape.Contains [xs.length] [i] :=
      ⟨(List.getElem?_eq_some_iff.mp hx).1, trivial⟩
    refine ⟨hcontains, ?_, ?_⟩
    · rw [(hread hcontains).1, get?_ofList, hx]
    · rw [(hread hcontains).2, get?_ofList, hy]

section Traverse

variable {f : α → Except ε β}

theorem traverseCells_eq_ok {g : α → β} {l : List α} (h : ∀ a ∈ l, f a = .ok (g a)) :
    traverseCells f l = .ok ⟨l.map g, List.length_map ..⟩ := by
  induction l with
  | nil => rfl
  | cons a l ih =>
    obtain ⟨ha, hl⟩ := List.forall_mem_cons.mp h
    rw [traverseCells, ha, ih hl]
    rfl

theorem traverse_eq_ok {g : α → β} {t : Tensor α} (h : ∀ a ∈ t.cells, f a = .ok (g a)) :
    t.traverse f = .ok (t.map g) := by
  rw [traverse, traverseCells_eq_ok h]
  rfl

/-- When cells can fail in one way only, the array fails in that way. -/
theorem traverseCells_eq_error {e : ε} {l : List α} (honly : ∀ a ∈ l, ∀ e', f a = .error e' → e' = e)
    {a : α} (ha : a ∈ l) (herror : f a = .error e) : traverseCells f l = .error e := by
  induction l with
  | nil => cases ha
  | cons b l ih =>
    obtain ⟨hb, hl⟩ := List.forall_mem_cons.mp honly
    rw [traverseCells]
    -- an earlier cell may fail first, but in the same way
    cases hfirst : f b with
    | error e' => rw [hb e' hfirst]
    | ok c =>
      have hrest : a ∈ l := by
        refine (List.mem_cons.mp ha).resolve_left ?_
        rintro rfl
        cases hfirst.symm.trans herror
      rw [ih hl hrest]

theorem traverse_eq_error {e : ε} {t : Tensor α}
    (honly : ∀ a ∈ t.cells, ∀ e', f a = .error e' → e' = e) {a : α} (ha : a ∈ t.cells)
    (herror : f a = .error e) : t.traverse f = .error e := by
  rw [traverse, traverseCells_eq_error honly ha herror]

end Traverse

end Tensor

namespace Nested

variable {α : Type}

def ofList (l : List α) : Nested α := .node (l.map .leaf)

theorem leavesAll_map_leaf (l : List α) : leavesAll (l.map .leaf) = l := by
  induction l with
  | nil => rfl
  | cons a l ih => rw [List.map_cons, leavesAll, leaves, ih, List.singleton_append]

theorem departureAll?_map_leaf (l : List α) : departureAll? (l.map .leaf) [] = none := by
  induction l with
  | nil => rfl
  | cons a l ih => rw [List.map_cons, departureAll?, departure?, ih, outermost]

theorem shape_ofList (l : List α) : (ofList l).shape = [l.length] := by
  cases l <;> simp [ofList, shape, spine, spineFirst, Shape.maxRank]

theorem toTensor_of_departure? {n : Nested α} (h : departure? n n.shape = none) :
    n.toTensor = .ok ⟨n.shape, n.leaves, length_leaves h⟩ := by
  rw [toTensor]
  split
  · rfl
  · next hsome =>
    rw [h] at hsome
    cases hsome

theorem toTensor_ofList (l : List α) : (ofList l).toTensor = .ok (.ofList l) := by
  have hregular : departure? (ofList l) (ofList l).shape = none := by
    rw [shape_ofList, ofList, departure?, if_pos (List.length_map ..), departureAll?_map_leaf,
      Option.map_none]
  rw [toTensor_of_departure? hregular, Except.ok.injEq]
  exact Tensor.ext (shape_ofList l) (leavesAll_map_leaf l)

end Nested

namespace ElementType

/-- Only floating-point numbers and objects stand for cells of unlike kinds. -/
theorem join_eq_iff {type a b : ElementType} (hfloat : type ≠ .float64) (hobject : type ≠ .object)
    (ha : a ≠ .bool) (hb : b ≠ .bool) : a.join b = type ↔ a = type ∧ b = type := by
  unfold join
  split
  · next h =>
    subst h
    exact (and_self_iff).symm
  · next hne =>
    split
    all_goals grind

theorem foldl_join_eq_iff {type : ElementType} (hfloat : type ≠ .float64) (hobject : type ≠ .object)
    {cells : List Scalar} (h : ∀ s ∈ cells, s.kind ≠ .bool) {first : ElementType}
    (hfirst : first ≠ .bool) :
    cells.foldl (fun type s => type.join s.kind) first = type ↔
      first = type ∧ ∀ s ∈ cells, s.kind = type := by
  induction cells generalizing first with
  | nil => simp
  | cons s cells ih =>
    obtain ⟨hs, hcells⟩ := List.forall_mem_cons.mp h
    have hjoin : first.join s.kind ≠ .bool := fun hbool =>
      hfirst ((join_eq_iff (by decide) (by decide) hfirst hs).mp hbool).1
    rw [List.foldl_cons, ih hcells hjoin, join_eq_iff hfloat hobject hfirst hs, and_assoc,
      List.forall_mem_cons]

end ElementType

namespace Scalar

theorem kind_int_eq_int64_iff {n : Int} : (Scalar.int n).kind = .int64 ↔ InInt64 n := by
  rw [kind]
  split_ifs <;> simp [*]

theorem kind_int_eq_uint64_iff {n : Int} :
    (Scalar.int n).kind = .uint64 ↔ InUInt64 n ∧ ¬ InInt64 n := by
  rw [kind]
  split_ifs <;> simp [*]

theorem kind_int (n : Int) : (Scalar.int n).kind = .int64 ∨ (Scalar.int n).kind = .uint64 ∨
    (Scalar.int n).kind = .object := by
  rw [kind]
  split_ifs <;> simp

end Scalar

namespace Tensor

theorem map_toInt_ofList {ns : List Int} (h : ∀ n ∈ ns, Scalar.InInt64 n) :
    (ofList (ns.map Int64.ofInt)).map Int64.toInt = .ofList ns := by
  rw [map_ofList, List.map_map]
  congr 1
  refine (List.map_congr_left fun n hn => ?_).trans (List.map_id ns)
  exact Int64.toInt_ofInt_of_le (h n hn).1 (h n hn).2

theorem map_toNat_ofList {ns : List Int} (h : ∀ n ∈ ns, Scalar.InUInt64 n) :
    (ofList (ns.map fun n => UInt64.ofNat n.toNat)).map (fun w => (w.toNat : Int)) =
      .ofList ns := by
  rw [map_ofList, List.map_map]
  congr 1
  refine (List.map_congr_left fun n hn => ?_).trans (List.map_id ns)
  obtain ⟨hlow, hhigh⟩ := h n hn
  have hnat : (UInt64.ofNat n.toNat).toNat = n.toNat :=
    UInt64.toNat_ofNat_of_lt' (by change n.toNat < 2 ^ 64; omega)
  simp only [Function.comp_apply, id_eq, hnat]
  omega

end Tensor

namespace Input

/-- A plain list of integers. -/
def ofIntegers (ns : List Int) : Input := .plain (.ofList (ns.map .int))

theorem inferType_eq_iff {type : ElementType} (hfloat : type ≠ .float64)
    (hobject : type ≠ .object) {cells : List Scalar} (hne : cells ≠ [])
    (h : ∀ s ∈ cells, s.kind ≠ .bool) :
    inferType cells = type ↔ ∀ s ∈ cells, s.kind = type := by
  cases cells with
  | nil => exact absurd rfl hne
  | cons c rest =>
    obtain ⟨hc, hrest⟩ := List.forall_mem_cons.mp h
    rw [inferType, ElementType.foldl_join_eq_iff hfloat hobject hrest hc, List.forall_mem_cons]

/-- Signed and unsigned words have only the floating-point numbers in common. -/
example : inferType [.int 0, .int 0x8000000000000000] = .float64 := by decide

theorem regular_ofList (cells : List Scalar) : regular (.ofList cells) = .ok (.ofList cells) := by
  rw [regular, Nested.toTensor_ofList]
  rfl

theorem resolve_ofIntegers (ns : List Int) :
    (ofIntegers ns).resolve = .ok (inferType (ns.map .int), (Tensor.ofList ns).map .int) := by
  rw [ofIntegers, resolve, regular_ofList, Tensor.map_ofList]
  rfl

theorem toInt64_ofIntegers (ns : List Int) :
    (ofIntegers ns).toInt64 = (Tensor.ofList (ns.map .int)).traverse Scalar.toInt64 := by
  rw [ofIntegers, toInt64, regular_ofList]
  rfl

theorem toInt64_ofIntegers_eq_ok {ns : List Int} (h : ∀ n ∈ ns, Scalar.InInt64 n) :
    (ofIntegers ns).toInt64 = .ok (.ofList (ns.map .ofInt)) := by
  have hcells : ∀ s ∈ ns.map Scalar.int, s.toInt64 = .ok s.castInt64 := by
    rintro s hs
    obtain ⟨n, hn, rfl⟩ := List.mem_map.mp hs
    exact if_pos (h n hn)
  rw [toInt64_ofIntegers, Tensor.traverse_eq_ok hcells, Tensor.map_ofList, List.map_map]
  rfl

theorem toInt64_ofIntegers_eq_error {ns : List Int} (h : ∃ n ∈ ns, ¬ Scalar.InInt64 n) :
    (ofIntegers ns).toInt64 = .error .integerTooLarge := by
  obtain ⟨n, hn, hout⟩ := h
  rw [toInt64_ofIntegers]
  refine Tensor.traverse_eq_error ?_ (List.mem_map_of_mem hn) (if_neg hout)
  intro s hs e herror
  obtain ⟨m, -, rfl⟩ := List.mem_map.mp hs
  exact (Scalar.int64OfInt_eq_error_iff.mp herror).2

/-- A list of integers of one kind of words is the array of these words. -/
theorem exists_words_of_inferType {ns : List Int} (hne : ns ≠ [])
    (hfloat : inferType (ns.map .int) ≠ .float64) (hobject : inferType (ns.map .int) ≠ .object) :
    ∃ words, Words words (.ofList ns) ∧ (ofIntegers ns).resolve = words.resolve := by
  have hkind : ∀ s ∈ ns.map Scalar.int, s.kind = inferType (ns.map .int) := by
    refine (inferType_eq_iff hfloat hobject (by simpa using hne) fun s hs => ?_).mp rfl
    obtain ⟨n, -, rfl⟩ := List.mem_map.mp hs
    rcases Scalar.kind_int n with h | h | h <;> simp [h]
  rw [List.forall_mem_map] at hkind
  -- all cells are of one kind, so any of them tells which words they are
  obtain ⟨n, hn⟩ := List.exists_mem_of_ne_nil ns hne
  rw [resolve_ofIntegers]
  rcases Scalar.kind_int n with h | h | h <;> rw [hkind n hn] at h
  · have hwords := Tensor.map_toInt_ofList fun m hm =>
      Scalar.kind_int_eq_int64_iff.mp ((hkind m hm).trans h)
    refine ⟨ofInt64 (.ofList (ns.map .ofInt)), hwords ▸ Words.signed _, ?_⟩
    rw [h, ← hwords, Tensor.map_map]
    rfl
  · have hwords := Tensor.map_toNat_ofList fun m hm =>
      (Scalar.kind_int_eq_uint64_iff.mp ((hkind m hm).trans h)).1
    refine ⟨ofUInt64 (.ofList (ns.map fun n => .ofNat n.toNat)), hwords ▸ Words.unsigned _, ?_⟩
    rw [h, ← hwords, Tensor.map_map]
    rfl
  · exact absurd h hobject

theorem inferType_of_inInt64 {ns : List Int} (hne : ns ≠ []) (h : ∀ n ∈ ns, Scalar.InInt64 n) :
    inferType (ns.map .int) = .int64 := by
  have hkind : ∀ s ∈ ns.map Scalar.int, s.kind = .int64 := by
    rw [List.forall_mem_map]
    exact fun n hn => Scalar.kind_int_eq_int64_iff.mpr (h n hn)
  rw [inferType_eq_iff (by decide) (by decide) (by simpa using hne) fun s hs => by
    rw [hkind s hs]
    decide]
  exact hkind

end Input

end VoxelGrid
