import VoxelGrid.Proofs.Json.Document

/-! The members of an object as their bindings leave them: a name has the value that it is bound to
last, in whatever spelling. -/

namespace VoxelGrid

theorem CodePoint.le_join {high low : CodePoint} (hh : high.IsHighSurrogate)
    (hl : low.IsLowSurrogate) : 0x10000 ≤ (high.join low hh hl).value :=
  Nat.le_add_right_of_le (Nat.le_add_right ..)

/-- A text without surrogates is joined from itself only. -/
theorem Text.joinSurrogates_eq_iff {t u : Text} (hu : ∀ p ∈ u, p.value < 0xD800) :
    t.joinSurrogates = u ↔ t = u := by
  fun_induction joinSurrogates t generalizing u with
  | case1 high low rest h ih =>
    refine iff_of_false ?_ ?_
    · rintro rfl
      have hjoin : (high.join low h.1 h.2).value < 0xD800 := hu _ (List.mem_cons_self ..)
      have hlow := CodePoint.le_join h.1 h.2
      omega
    · rintro rfl
      have hhigh : high.value < 0xD800 := hu _ (List.mem_cons_self ..)
      exact Nat.not_lt.mpr h.1.1 hhigh
  | case2 high low rest h ih =>
    cases u with
    | nil => simp
    | cons p u =>
      have hrest := ih fun q hq => hu q (List.mem_cons_of_mem p hq)
      rw [List.cons.injEq, List.cons.injEq, hrest]
  | case3 short => rfl

namespace Json

theorem lookup_foldl_bind (bindings members : List (Text × Json)) (name : Text) :
    lookup (bindings.foldl (fun members (name, value) => bind members name value) members) name =
      ((bindings.reverse.find? (·.1 = name)).map Prod.snd).or (lookup members name) := by
  induction bindings generalizing members with
  | nil => rfl
  | cons b bindings ih =>
    rw [List.foldl_cons, ih, lookup_bind, List.reverse_cons, List.find?_append]
    -- A later binding of the name hides this one, which hides those of the object before.
    cases hlast : bindings.reverse.find? (·.1 = name) with
    | some last => rfl
    | none =>
      by_cases hname : name = b.1
      · simp [hname]
      · simp [hname, Ne.symm hname]

/-- No character of the name comes from surrogates, nor is one of them. -/
def BelowSurrogates (name : String) : Prop := ∀ c ∈ name.toList, c.toNat < 0xD800

instance (name : String) : Decidable (BelowSurrogates name) := List.decidableBAll _ _

theorem Literal.value_eq_iff_spells (l : Literal) {name : String} (h : BelowSurrogates name) :
    l.value = .ofString name ↔ l.Spells name := by
  apply Text.joinSurrogates_eq_iff
  intro p hp
  obtain ⟨c, hc, rfl⟩ := List.mem_map.mp hp
  exact h c hc

theorem lookup_entries (entries : List (Literal × Json)) {name : String}
    (h : BelowSurrogates name) :
    lookup ((entries.map fun (name, value) => (name.value, value)).foldl
      (fun members (name, value) => bind members name value) []) (.ofString name) =
      lastValue? entries name := by
  rw [lookup_foldl_bind, lastValue?]
  simp [← List.map_reverse, List.find?_map, Function.comp_def, Literal.value_eq_iff_spells, h,
    lookup]

namespace Tree

theorem value_of_entries {t : Tree} {entries : List (Literal × Json)}
    (h : t.entries? = some entries) :
    ∃ members, t.value = .object members ∧
      ∀ {name : String}, BelowSurrogates name →
        lookup members (.ofString name) = lastValue? entries name := by
  cases t with
  | emptyObject inside =>
    cases h
    exact ⟨[], rfl, fun _ => rfl⟩
  | object members =>
    cases h
    exact ⟨_, rfl, fun hname => lookup_entries _ hname⟩
  | _ => cases h

theorem value_ne_object {t : Tree} (h : t.entries? = none) (members : List (Text × Json)) :
    t.value ≠ .object members := by
  cases t with
  | number n =>
    rw [value, Number.value]
    split <;> exact nofun
  | emptyObject inside => cases h
  | object members => cases h
  | _ => exact nofun

end Tree

end Json

end VoxelGrid
