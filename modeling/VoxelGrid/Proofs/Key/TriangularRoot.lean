import Mathlib.Analysis.Real.Sqrt
import VoxelGrid.Proofs.Key.Diagonal

/-! The diagonal of a number as its triangular root. From one triangular number to the next the real
root, the greatest odd number with a small enough square and the integer root all lead to the same
diagonal, so neither whole part loses a unit. -/

namespace VoxelGrid.Diagonal

/-- The number `j` is the triangular root of `c`, in whole numbers and in exact real arithmetic. It
is what the whole part `r` of the root of `8 c + 1` is halved to, however `r` is found. -/
structure IsRoot (c j : Int) : Prop where
  nonneg : 0 ≤ j
  triangle_iff : ∀ i, 0 ≤ i → (i * (i + 1) / 2 ≤ c ∧ c < (i + 1) * (i + 2) / 2 ↔ i = j)
  floor_sqrt : ⌊√(1 / 4 + 2 * (c : ℝ)) - 1 / 2⌋ = j
  greatest : IsGreatest {i : Int | (2 * i + 1) ^ 2 ≤ 8 * c + 1} j
  half_root : ∀ r, 0 ≤ r → r * r ≤ 8 * c + 1 → 8 * c + 1 < (r + 1) * (r + 1) → (r - 1) / 2 = j

theorem isIndex_iff_natCast (c i : Nat) :
    IsIndex c i ↔ (i : Int) * (i + 1) / 2 ≤ c ∧ (c : Int) < (i + 1) * (i + 2) / 2 := by
  rw [IsIndex, triangle, triangle]
  norm_cast

theorem floor_sqrt_eq_index (c : Nat) : ⌊√(1 / 4 + 2 * (c : ℝ)) - 1 / 2⌋ = (index c : Int) := by
  obtain ⟨hlow, hhigh⟩ := sq_bounds_of_isIndex (K := ℝ) (isIndex_index c)
  have hle : (index c : ℝ) + 1 / 2 ≤ √(2 * c + 1 / 4) := Real.le_sqrt_of_sq_le hlow
  have hlt : √(2 * (c : ℝ) + 1 / 4) < index c + 3 / 2 := (Real.sqrt_lt' (by positivity)).mpr hhigh
  rw [add_comm, Int.floor_eq_iff, Int.cast_natCast]
  constructor <;> linarith

theorem isGreatest_index (c : Nat) :
    IsGreatest {i : Int | (2 * i + 1) ^ 2 ≤ 8 * (c : Int) + 1} (index c) := by
  obtain ⟨hlow, hhigh⟩ := (isIndex_iff_sq c (index c)).mp (isIndex_index c)
  constructor
  · change (2 * (index c : Int) + 1) ^ 2 ≤ 8 * (c : Int) + 1
    exact_mod_cast hlow
  · intro i hi
    -- the next odd number is too large already
    have hlt : (2 * i + 1) ^ 2 < (2 * index c + 3) ^ 2 :=
      lt_of_le_of_lt hi (by exact_mod_cast hhigh)
    have hodd := lt_of_pow_lt_pow_left₀ 2 (by positivity) hlt
    omega

theorem half_root_eq_index {c r : Nat} (hle : r * r ≤ 8 * c + 1)
    (hlt : 8 * c + 1 < (r + 1) * (r + 1)) : ((r : Int) - 1) / 2 = index c := by
  have hpos : 0 < r := by
    rcases Nat.eq_zero_or_pos r with rfl | hpos
    · omega
    · exact hpos
  rw [index, isqrt_eq_of_sq_le hle hlt]
  omega

theorem isRoot_index (c : Nat) : IsRoot c (index c) := by
  refine ⟨Int.natCast_nonneg _, ?_, floor_sqrt_eq_index c, isGreatest_index c, ?_⟩
  · intro i hi
    lift i to Nat using hi
    rw [← isIndex_iff_natCast, ← index_eq_iff, Nat.cast_inj, eq_comm]
  · intro r hr hle hlt
    lift r to Nat using hr
    exact half_root_eq_index (by exact_mod_cast hle) (by exact_mod_cast hlt)

/-- Every number that is not negative has exactly one triangular root, and it is the number's
diagonal. -/
theorem exists_isRoot {c : Int} (h : 0 ≤ c) : ∃ j, index? c = .ok j ∧ IsRoot c j := by
  lift c to Nat using h
  exact ⟨index c, index?_natCast c, isRoot_index c⟩

/-- The first number of a diagonal past every machine word, and the number before it. -/
theorem exists_isRoot_large : (0 : Int) ≤ 2 ^ 69 * (2 ^ 70 + 1) ∧
    index? (2 ^ 69 * (2 ^ 70 + 1)) = .ok (2 ^ 70) ∧
      index? (2 ^ 69 * (2 ^ 70 + 1) - 1) = .ok (2 ^ 70 - 1) := by
  have hfirst : (0 : Int) ≤ 2 ^ 69 * (2 ^ 70 + 1) := by decide
  obtain ⟨i, hi, hroot⟩ := exists_isRoot hfirst
  obtain ⟨j, hj, hroot'⟩ := exists_isRoot (c := 2 ^ 69 * (2 ^ 70 + 1) - 1) (by decide)
  have hi' := (hroot.triangle_iff (2 ^ 70) (by decide)).mp (by decide)
  have hj' := (hroot'.triangle_iff (2 ^ 70 - 1) (by decide)).mp (by decide)
  exact ⟨hfirst, hi' ▸ hi, hj' ▸ hj⟩

end VoxelGrid.Diagonal
