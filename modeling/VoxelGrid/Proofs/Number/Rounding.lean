import Mathlib.Tactic.Linarith
import Mathlib.Tactic.Ring
import VoxelGrid.Number.Rounding

/-! How far rounding moves a number. It is half a unit of the last digit kept at most, hence at most
the `2 ^ bits`-th part of the number itself. -/

namespace VoxelGrid.Rounding

theorem roundDiv_mul_bounds (n : Nat) {unit : Nat} (h : 0 < unit) :
    2 * n ≤ 2 * (roundDiv n unit * unit) + unit ∧ 2 * (roundDiv n unit * unit) ≤ 2 * n + unit := by
  have hdiv := Nat.div_add_mod' n unit
  have hmod := Nat.mod_lt n h
  rw [roundDiv]
  split
  · rw [Nat.succ_mul (n / unit)]
    omega
  · omega

theorem div_le_roundDiv (num den : Nat) : num / den ≤ roundDiv num den := by
  rw [roundDiv]
  split <;> omega

theorem roundBits_eq (bits n : Nat) :
    roundBits bits n = roundDiv n (2 ^ (n.log2 + 1 - bits)) * 2 ^ (n.log2 + 1 - bits) := rfl

theorem roundBits_of_log2_lt {bits n : Nat} (h : n.log2 + 1 ≤ bits) : roundBits bits n = n := by
  have hbounds := roundDiv_mul_bounds n Nat.one_pos
  rw [roundBits_eq, Nat.sub_eq_zero_of_le h, Nat.pow_zero]
  omega

theorem roundBits_bounds (bits n : Nat) :
    2 ^ bits * n ≤ 2 ^ bits * roundBits bits n + n ∧
      2 ^ bits * roundBits bits n ≤ 2 ^ bits * n + n := by
  rcases Nat.lt_or_ge bits (n.log2 + 1) with h | h
  · rcases Nat.eq_zero_or_pos n with rfl | hpos
    · simp [roundBits, roundDiv]
    · have hunit : 2 ^ bits * 2 ^ (n.log2 + 1 - bits) = 2 * 2 ^ n.log2 := by
        rw [← Nat.pow_succ', ← Nat.pow_add, Nat.add_sub_cancel' h.le]
      have hlog : 2 ^ n.log2 ≤ n := Nat.log2_self_le hpos.ne'
      obtain ⟨hlow, hhigh⟩ := roundDiv_mul_bounds n (Nat.two_pow_pos (n.log2 + 1 - bits))
      have hlow' := Nat.mul_le_mul_left (2 ^ bits) hlow
      have hhigh' := Nat.mul_le_mul_left (2 ^ bits) hhigh
      rw [roundBits_eq]
      constructor <;> linarith
  · rw [roundBits_of_log2_lt h]
    omega

/-- Rounding does not fall below the power of two that the number reaches. -/
theorem two_pow_log2_le_roundBits {bits n : Nat} (hbits : 0 < bits) (h : n ≠ 0) :
    2 ^ n.log2 ≤ roundBits bits n := by
  have hlog : 2 ^ n.log2 ≤ n := Nat.log2_self_le h
  rcases Nat.lt_or_ge bits (n.log2 + 1) with hlt | hge
  · have hpow : 2 ^ (bits - 1) * 2 ^ (n.log2 + 1 - bits) = 2 ^ n.log2 := by
      rw [← Nat.pow_add]
      congr 1
      omega
    have hle : 2 ^ (bits - 1) ≤ n / 2 ^ (n.log2 + 1 - bits) := by
      rw [Nat.le_div_iff_mul_le (Nat.two_pow_pos _), hpow]
      exact hlog
    rw [roundBits_eq, ← hpow]
    exact Nat.mul_le_mul_right _ (hle.trans (div_le_roundDiv ..))
  · rw [roundBits_of_log2_lt hge]
    exact hlog

/-- A last odd digit keeps the number off the middle between two rounded ones, so it may stand for any
real number between its even neighbours. -/
theorem roundBits_odd_bounds {bits r : Nat} (h : 2 ^ bits ≤ r) :
    2 ^ bits * (2 * r + 2) ≤ 2 ^ bits * roundBits bits (2 * r + 1) + (2 * r + 2) ∧
      2 ^ bits * roundBits bits (2 * r + 1) ≤ 2 ^ bits * (2 * r) + 2 * r := by
  have hlog : 2 ^ (2 * r + 1).log2 ≤ 2 * r + 1 := Nat.log2_self_le (by omega)
  have hbits : bits + 1 ≤ (2 * r + 1).log2 := by
    rw [Nat.le_log2 (by omega), Nat.pow_succ]
    omega
  obtain ⟨k, hk⟩ := Nat.exists_eq_add_of_le hbits
  have hunit : 2 ^ ((2 * r + 1).log2 + 1 - bits) = 4 * 2 ^ k := by
    rw [hk, show bits + 1 + k + 1 - bits = 2 + k by omega, Nat.pow_add]
  have hhalf : 2 ^ (2 * r + 1).log2 = 2 * (2 ^ bits * 2 ^ k) := by
    rw [hk, Nat.pow_add, Nat.pow_succ]
    ring
  obtain ⟨hlow, hhigh⟩ :=
    roundDiv_mul_bounds (2 * r + 1) (Nat.two_pow_pos ((2 * r + 1).log2 + 1 - bits))
  rw [roundBits_eq]
  rw [hunit] at hlow hhigh ⊢
  -- the rounded number and half a unit are even, so half a unit is not quite reached
  have heven : roundDiv (2 * r + 1) (4 * 2 ^ k) * (4 * 2 ^ k) =
      2 * (2 * (roundDiv (2 * r + 1) (4 * 2 ^ k) * 2 ^ k)) := by ring
  have hlow' : 2 * r + 2 ≤ roundDiv (2 * r + 1) (4 * 2 ^ k) * (4 * 2 ^ k) + 2 * 2 ^ k := by omega
  have hhigh' : roundDiv (2 * r + 1) (4 * 2 ^ k) * (4 * 2 ^ k) ≤ 2 * r + 2 * 2 ^ k := by omega
  have hscaledLow := Nat.mul_le_mul_left (2 ^ bits) hlow'
  have hscaledHigh := Nat.mul_le_mul_left (2 ^ bits) hhigh'
  have hpart : 2 * (2 ^ bits * 2 ^ k) ≤ 2 * r := by omega
  constructor <;> linarith

end VoxelGrid.Rounding
