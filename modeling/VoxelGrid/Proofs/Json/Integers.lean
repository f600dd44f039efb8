import VoxelGrid.Json.Display
import VoxelGrid.Proofs.Error
import VoxelGrid.Proofs.Json.Numeral

/-! The integers of a document. Those of a document that can be read are short enough to be written,
so a message can show each of its values. -/

namespace VoxelGrid.Json

/-- Every integer in the value can be written. -/
def IsWritable (value : Json) : Prop := ∀ n ∈ value.integers, HasNumeral n

theorem integersOfItems_eq_flatMap (items : List Json) :
    integersOfItems items = items.flatMap integers := by
  induction items with
  | nil => rfl
  | cons item items ih => rw [integersOfItems, ih, List.flatMap_cons]

theorem integersOfMembers_eq_flatMap (members : List (Text × Json)) :
    integersOfMembers members = members.flatMap (·.2.integers) := by
  induction members with
  | nil => rfl
  | cons m members ih => rw [integersOfMembers, ih, List.flatMap_cons]

theorem isWritable_array_iff {items : List Json} :
    (array items).IsWritable ↔ ∀ item ∈ items, item.IsWritable := by
  simp only [IsWritable, integers, integersOfItems_eq_flatMap, List.forall_mem_flatMap]

theorem isWritable_object_iff {members : List (Text × Json)} :
    (object members).IsWritable ↔ ∀ m ∈ members, m.2.IsWritable := by
  simp only [IsWritable, integers, integersOfMembers_eq_flatMap, List.forall_mem_flatMap]

theorem mem_bind {members : List (Text × Json)} {name : Text} {value : Json} {m : Text × Json}
    (h : m ∈ bind members name value) : m = (name, value) ∨ m ∈ members := by
  induction members with
  | nil => exact .inl (List.mem_singleton.mp h)
  | cons first members ih =>
    rw [bind] at h
    split at h
    · rcases List.mem_cons.mp h with rfl | h
      · exact .inl rfl
      · exact .inr (List.mem_cons_of_mem _ h)
    · rcases List.mem_cons.mp h with rfl | h
      · exact .inr (List.mem_cons_self ..)
      · exact (ih h).imp_right (List.mem_cons_of_mem _)

/-- Binding adds no value of its own. -/
theorem isWritable_ofBindings {bindings : List (Text × Json)}
    (h : ∀ b ∈ bindings, b.2.IsWritable) : (ofBindings bindings).IsWritable := by
  rw [ofBindings, isWritable_object_iff]
  refine List.foldlRecOn bindings _
    (motive := fun members : List (Text × Json) => ∀ m ∈ members, m.2.IsWritable)
    (List.forall_mem_nil _) ?_
  intro members hmembers b hb m hm
  rcases mem_bind hm with rfl | hm
  · exact h b hb
  · exact hmembers m hm

theorem Number.isWritable_of_fits {n : Number} (h : n.Fits) : n.value.IsWritable := by
  rw [value]
  split
  · next hinteger =>
    have hwhole : HasNumeral n.whole := hasNumeral_iff_length.mpr (h hinteger)
    refine List.forall_mem_singleton.mpr ?_
    split
    · exact hasNumeral_neg_iff.mpr hwhole
    · exact hwhole
  · exact List.forall_mem_nil _

mutual

theorem Tree.isWritable_of_fits : ∀ {t : Tree} {depth : Nat}, t.Fits depth → t.value.IsWritable
  | .null, _, _ | .bool _, _, _ | .string _, _, _ => nofun
  | .emptyArray _, _, _ | .emptyObject _, _, _ => nofun
  | .number _, _, h => Number.isWritable_of_fits h
  | .array _, _, h => isWritable_array_iff.mpr (Items.isWritable_of_fits h.2)
  | .object members, _, h => by
    refine isWritable_ofBindings fun b hb => ?_
    obtain ⟨entry, hentry, rfl⟩ := List.mem_map.mp hb
    exact Members.isWritable_of_fits h.2 entry hentry

theorem Items.isWritable_of_fits : ∀ {items : Items} {depth : Nat}, items.Fits depth →
    ∀ item ∈ items.values, item.IsWritable
  | .last _ _ _, _, h => List.forall_mem_singleton.mpr (Tree.isWritable_of_fits h)
  | .cons _ _ _ _, _, h =>
    List.forall_mem_cons.mpr ⟨Tree.isWritable_of_fits h.1, Items.isWritable_of_fits h.2⟩

theorem Members.isWritable_of_fits : ∀ {members : Members} {depth : Nat}, members.Fits depth →
    ∀ entry ∈ members.entries, entry.2.IsWritable
  | .last _ _ _ _ _, _, h => List.forall_mem_singleton.mpr (Tree.isWritable_of_fits h)
  | .cons _ _ _ _ _ _, _, h =>
    List.forall_mem_cons.mpr ⟨Tree.isWritable_of_fits h.1, Members.isWritable_of_fits h.2⟩

end

theorem Tree.isWritable_of_entries? {t : Tree} {depth : Nat} {entries : List (Literal × Json)}
    (hfits : t.Fits depth) (h : t.entries? = some entries) :
    ∀ entry ∈ entries, entry.2.IsWritable := by
  cases t with
  | emptyObject inside =>
    cases h
    exact nofun
  | object members =>
    cases h
    exact Members.isWritable_of_fits hfits.2
  | _ => cases h

theorem isWritable_of_lastValue? {entries : List (Literal × Json)} {name : String} {value : Json}
    (hentries : ∀ entry ∈ entries, entry.2.IsWritable) (h : lastValue? entries name = some value) :
    value.IsWritable := by
  obtain ⟨entry, hentry, rfl⟩ := Option.map_eq_some_iff.mp h
  exact hentries entry (List.mem_reverse.mp (List.mem_of_find?_eq_some hentry))

end VoxelGrid.Json
