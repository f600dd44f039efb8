import VoxelGrid.Text.Newline

/-! What the unification of line ends does to the parts of a text. -/

namespace VoxelGrid.Newline

variable {s t : List Char}

theorem unify_cons {c : Char} (h : c ≠ '\r') : unify (c :: s) = c :: unify s := by
  rw [unify]
  · rintro rest rfl -
    exact h rfl
  · rintro rfl
    exact h rfl

/-- A text without carriage returns stays as it is. -/
theorem unify_append_of_notMem (h : '\r' ∉ s) : unify (s ++ t) = s ++ unify t := by
  induction s with
  | nil => rfl
  | cons c s ih =>
    rw [List.mem_cons, not_or] at h
    rw [List.cons_append, unify_cons (Ne.symm h.1), ih h.2, List.cons_append]

theorem unify_return (h : s.head? ≠ some '\n') : unify ('\r' :: s) = '\n' :: unify s := by
  rw [unify]
  rintro rest rfl
  exact h rfl

/-- Only a line feed can be taken into the line end before it. -/
theorem unify_append (h : t.head? ≠ some '\n') : unify (s ++ t) = unify s ++ unify t := by
  fun_induction unify s with
  | case1 => rfl
  | case2 s ih => rw [List.cons_append, List.cons_append, unify, ih, List.cons_append]
  | case3 s hs ih =>
    have hhead : (s ++ t).head? ≠ some '\n' := by
      cases s with
      | nil => exact h
      | cons c s => exact fun hc => hs s (by rw [Option.some.inj hc])
    rw [List.cons_append, unify_return hhead, ih, List.cons_append]
  | case4 c s _ hreturn ih =>
    rw [List.cons_append, unify_cons fun hc => hreturn hc, ih, List.cons_append]

theorem mem_unify {c : Char} (h : c ∈ unify s) : c ∈ s ∨ c = '\n' := by
  fun_induction unify s with
  | case1 => exact .inl h
  | case2 s ih | case3 s _ ih =>
    obtain rfl | h := List.mem_cons.mp h
    · exact .inr rfl
    · exact (ih h).imp_left fun hs => by simp [hs]
  | case4 d s _ _ ih =>
    obtain rfl | h := List.mem_cons.mp h
    · exact .inl (List.mem_cons_self ..)
    · exact (ih h).imp_left (List.mem_cons_of_mem d)

end VoxelGrid.Newline
