import VoxelGrid.Proofs.Layout.Split

/-! Layouts with a negative exponent. They have no sizes, and no position has an address under them,
whichever axis the exponent stands for. -/

namespace VoxelGrid

theorem shiftLeft_eq_error_iff {n count : Int} {e : Error} :
    shiftLeft n count = .error e ↔ count < 0 ∧ e = .negativeShift := by
  rw [shiftLeft]
  split <;> simp [*, eq_comm]

theorem shiftRight_eq_error_iff {n count : Int} {e : Error} :
    shiftRight n count = .error e ↔ count < 0 ∧ e = .negativeShift := by
  rw [shiftRight]
  split <;> simp [*, eq_comm]

namespace Layout

theorem not_nonNegative_iff {l : Layout} : ¬ l.NonNegative ↔ ∃ axis, l.powers.get axis < 0 := by
  simp only [NonNegative, not_forall, not_le]

theorem mask_of_neg {power : Int} (h : power < 0) : mask power = .error .negativeShift := by
  rw [mask, extent, shiftLeft_eq_error_iff.mpr ⟨h, rfl⟩]
  rfl

variable {l : Layout} (h : ¬ l.NonNegative)
include h

theorem sizes_of_not_nonNegative : l.sizes = .error .negativeShift := by
  obtain ⟨axis, hpower⟩ := not_nonNegative_iff.mp h
  refine Triple.traverse_of_error ⟨axis, shiftLeft_eq_error_iff.mpr ⟨hpower, rfl⟩⟩ ?_
  intro axis e he
  exact (shiftLeft_eq_error_iff.mp he).2

theorem chunkPosition_of_not_nonNegative (p : Position) :
    chunkPosition p l.powers = .error .negativeShift := by
  obtain ⟨axis, hpower⟩ := not_nonNegative_iff.mp h
  refine Triple.traverse_of_error ⟨axis, shiftRight_eq_error_iff.mpr ⟨hpower, rfl⟩⟩ ?_
  intro axis e he
  exact (shiftRight_eq_error_iff.mp he).2

theorem split_of_not_nonNegative (p : Position) : l.split p = .error .negativeShift := by
  rw [split, chunkPosition_of_not_nonNegative h]
  rfl

end Layout

end VoxelGrid
