import VoxelGrid.Key.Codec
import VoxelGrid.Proofs.Error

/-! The range of keys as a property of what an operation answers. -/

namespace VoxelGrid

/-- The operation is refused because a key, or what it is made of, is out of range. -/
def KeyRefused {α : Type} (answer : Except Error α) : Prop :=
  ∃ e, answer = .error e ∧ e.isKeyRange = true

def IsKey (c : Int) : Prop := 0 ≤ c ∧ c ≤ keyMax

theorem keyMax_eq : keyMax = 2 ^ 63 - 1 := rfl

theorem not_isKey_iff {c : Int} : ¬ IsKey c ↔ c < 0 ∨ keyMax < c := by
  rw [IsKey]
  omega

theorem hasNumeral_keyMax : HasNumeral keyMax :=
  hasNumeral_of_lt 19 (by decide) (by decide)

theorem IsKey.hasNumeral {c : Int} (h : IsKey c) : HasNumeral c := by
  obtain ⟨hlow, hhigh⟩ := h
  exact hasNumeral_keyMax.of_natAbs_le (by omega)

variable {α β : Type}

@[simp] theorem not_keyRefused_ok (a : α) : ¬ KeyRefused (.ok a : Except Error α) := by
  rintro ⟨e, h, -⟩
  cases h

@[simp] theorem keyRefused_error (e : Error) :
    KeyRefused (.error e : Except Error α) ↔ e.isKeyRange = true := by
  constructor
  · rintro ⟨_, h, hrange⟩
    cases h
    exact hrange
  · intro hrange
    exact ⟨e, rfl, hrange⟩

end VoxelGrid
