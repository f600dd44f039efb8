import Mathlib.Algebra.Order.Floor.Semifield
import Mathlib.Data.Rat.Floor
import Mathlib.Tactic.GCongr
import Mathlib.Tactic.NormNum
import VoxelGrid.Proofs.Batch.Decode
import VoxelGrid.Proofs.Number.Rounding

/-! The estimate of a key's diagonal. Each of its steps is off by a `2 ^ 53`-th part at most, which
leaves the estimate of every key within one of the diagonal, so that one correction each way is
enough. -/

namespace VoxelGrid.Batch

open Diagonal Rounding

namespace Estimate

/-- The part of a number by which rounding moves it at most. -/
def roundoff : ℚ := 1 / 2 ^ precision

theorem roundoff_eq : roundoff = 1 / 9007199254740992 := by
  norm_num [roundoff, precision]

theorem roundoff_pos : 0 < roundoff := by
  norm_num [roundoff_eq]

theorem one_sub_roundoff_pos : 0 < 1 - roundoff := by
  norm_num [roundoff_eq]

theorem between_of_abs_sub_le {f x : ℚ} (h : |f - x| ≤ roundoff * x) :
    (1 - roundoff) * x ≤ f ∧ f ≤ (1 + roundoff) * x := by
  obtain ⟨hlow, hhigh⟩ := abs_le.mp h
  constructor <;> linarith

/-- A key as a number, twice that and a quarter, the root of the sum and the root less a half, each
one rounded. -/
structure RoundedSteps (c : Nat) (f₁ f₂ f₃ f₄ : ℚ) : Prop where
  converted : |f₁ - c| ≤ roundoff * c
  radicand : |f₂ - (2 * f₁ + 1 / 4)| ≤ roundoff * (2 * f₁ + 1 / 4)
  root_nonneg : 0 ≤ f₃
  root_low : (1 - roundoff) ^ 2 * f₂ ≤ f₃ ^ 2
  root_high : f₃ ^ 2 ≤ (1 + roundoff) ^ 2 * f₂
  diagonal : |f₄ - (f₃ - 1 / 2)| ≤ roundoff * (f₃ - 1 / 2)

section Steps

variable {c d : Nat} {f₁ f₂ f₃ f₄ : ℚ} (h : RoundedSteps c f₁ f₂ f₃ f₄)
include h

theorem RoundedSteps.radicand_le : f₂ ≤ (1 + roundoff) * ((1 + roundoff) * (2 * c + 1 / 4)) := by
  have hu := roundoff_pos
  have hconverted := (between_of_abs_sub_le h.converted).2
  calc f₂ ≤ (1 + roundoff) * (2 * f₁ + 1 / 4) := (between_of_abs_sub_le h.radicand).2
    _ ≤ (1 + roundoff) * ((1 + roundoff) * (2 * c + 1 / 4)) := by
      gcongr
      linarith

theorem RoundedSteps.le_radicand : (1 - roundoff) * ((1 - roundoff) * (2 * c + 1 / 4)) ≤ f₂ := by
  have hu := roundoff_pos
  have hu' := one_sub_roundoff_pos
  have hconverted := (between_of_abs_sub_le h.converted).1
  calc (1 - roundoff) * ((1 - roundoff) * (2 * c + 1 / 4))
      ≤ (1 - roundoff) * (2 * f₁ + 1 / 4) := by
        gcongr
        linarith
    _ ≤ f₂ := (between_of_abs_sub_le h.radicand).1

/-- Two steps lose one factor each under the root, the root itself one: four in its square. -/
theorem RoundedSteps.root_lt (hd : IsIndex c d) : f₃ < (1 + roundoff) ^ 2 * (d + 3 / 2) := by
  have hu := roundoff_pos
  have hsq : f₃ ^ 2 < ((1 + roundoff) ^ 2 * (d + 3 / 2)) ^ 2 := by
    calc f₃ ^ 2 ≤ (1 + roundoff) ^ 2 * f₂ := h.root_high
      _ ≤ (1 + roundoff) ^ 2 * ((1 + roundoff) * ((1 + roundoff) * (2 * c + 1 / 4))) := by
        gcongr
        exact h.radicand_le
      _ < (1 + roundoff) ^ 2 * ((1 + roundoff) * ((1 + roundoff) * (d + 3 / 2) ^ 2)) := by
        gcongr
        exact (sq_bounds_of_isIndex hd).2
      _ = ((1 + roundoff) ^ 2 * (d + 3 / 2)) ^ 2 := by ring
  exact lt_of_pow_lt_pow_left₀ 2 (by positivity) hsq

theorem RoundedSteps.le_root (hd : IsIndex c d) : (1 - roundoff) ^ 2 * (d + 1 / 2) ≤ f₃ := by
  have hu := one_sub_roundoff_pos
  have hsq : ((1 - roundoff) ^ 2 * (d + 1 / 2)) ^ 2 ≤ f₃ ^ 2 := by
    calc ((1 - roundoff) ^ 2 * (d + 1 / 2)) ^ 2
        = (1 - roundoff) ^ 2 * ((1 - roundoff) * ((1 - roundoff) * (d + 1 / 2) ^ 2)) := by ring
      _ ≤ (1 - roundoff) ^ 2 * ((1 - roundoff) * ((1 - roundoff) * (2 * c + 1 / 4))) := by
        gcongr
        exact (sq_bounds_of_isIndex hd).1
      _ ≤ (1 - roundoff) ^ 2 * f₂ := by
        gcongr
        exact h.le_radicand
      _ ≤ f₃ ^ 2 := h.root_low
  exact le_of_pow_le_pow_left₀ two_ne_zero h.root_nonneg hsq

/-- An error is not negative, so neither is the number of which it is a part. -/
theorem RoundedSteps.diagonal_nonneg : 0 ≤ f₄ := by
  have hroot : 0 ≤ f₃ - 1 / 2 :=
    (mul_nonneg_iff_of_pos_left roundoff_pos).mp ((abs_nonneg _).trans h.diagonal)
  calc 0 ≤ (1 - roundoff) * (f₃ - 1 / 2) := mul_nonneg one_sub_roundoff_pos.le hroot
    _ ≤ f₄ := (between_of_abs_sub_le h.diagonal).1

/-- The error of all steps together grows with the diagonal, and there are not enough diagonals for
it to reach one. -/
theorem RoundedSteps.between (hd : IsIndex c d) (hlt : d < 2 ^ 32) :
    (d : ℚ) - 1 ≤ f₄ ∧ f₄ < d + 2 := by
  have hhigh := h.root_lt hd
  have hlow := h.le_root hd
  obtain ⟨hbelow, habove⟩ := between_of_abs_sub_le h.diagonal
  have hdiagonal : (d : ℚ) ≤ 2 ^ 32 := by exact_mod_cast hlt.le
  rw [roundoff_eq] at hhigh hlow hbelow habove
  constructor <;> linarith

theorem RoundedSteps.floor_near (hd : IsIndex c d) (hlt : d < 2 ^ 32) :
    ⌊f₄⌋₊ ≤ d + 1 ∧ d ≤ ⌊f₄⌋₊ + 1 := by
  obtain ⟨hlow, hhigh⟩ := h.between hd hlt
  have hle : (⌊f₄⌋₊ : ℚ) < d + 2 := (Nat.floor_le h.diagonal_nonneg).trans_lt hhigh
  have hge : (d : ℚ) < ⌊f₄⌋₊ + 2 := by linarith [Nat.lt_floor_add_one f₄]
  exact ⟨Nat.lt_succ_iff.mp (by exact_mod_cast hle), Nat.lt_succ_iff.mp (by exact_mod_cast hge)⟩

/-- Rounded steps from a key end next to its diagonal, at a number that is a word. -/
theorem RoundedSteps.nearDiagonal (hc : c < 2 ^ 63) : NearDiagonal (.ofNat ⌊f₄⌋₊) c := by
  have hlt : index c < 2 ^ 32 := index_lt_of_lt hc
  obtain ⟨hhigh, hlow⟩ := h.floor_near (isIndex_index c) hlt
  have hnat : (UInt64.ofNat ⌊f₄⌋₊).toNat = ⌊f₄⌋₊ :=
    UInt64.toNat_ofNat_of_lt' (show _ < 2 ^ 64 by omega)
  exact ⟨index c, isIndex_index c, by omega, by omega⟩

theorem RoundedSteps.abs_floor_sub_le (hc : c < 2 ^ 63) (hd : IsIndex c d) : |⌊f₄⌋ - d| ≤ 1 := by
  obtain rfl := index_eq_iff.mpr hd
  obtain ⟨hhigh, hlow⟩ := h.floor_near hd (index_lt_of_lt hc)
  rw [← Int.natCast_floor_eq_floor h.diagonal_nonneg, abs_le]
  omega

theorem RoundedSteps.toNat_correct (hc : c < 2 ^ 63) :
    (correct (.ofNat ⌊f₄⌋₊) (.ofNat c)).toNat = index c := by
  have hword : (UInt64.ofNat c).toNat = c :=
    UInt64.toNat_ofNat_of_lt' (show c < 2 ^ 64 by omega)
  have hnear := h.nearDiagonal hc
  rw [← hword] at hnear hc
  rw [(Batch.toNat_correct hc hnear).2.2, hword]

end Steps

theorem le_add_roundoff {a b c : Nat} (h : 2 ^ precision * a ≤ 2 ^ precision * b + c) :
    (a : ℚ) ≤ b + roundoff * c := by
  have hpow : (2 ^ precision : ℚ) = 9007199254740992 := by norm_num [precision]
  have hcast : (2 ^ precision : ℚ) * a ≤ 2 ^ precision * b + c := by exact_mod_cast h
  rw [hpow] at hcast
  rw [roundoff_eq]
  linarith

theorem abs_roundBits_sub_le (n : Nat) : |(roundBits precision n : ℚ) - n| ≤ roundoff * n := by
  obtain ⟨hlow, hhigh⟩ := roundBits_bounds precision n
  rw [abs_le]
  constructor
  · linarith [le_add_roundoff hlow]
  · linarith [le_add_roundoff hhigh]

theorem abs_roundBits_div_sub_le (n : Nat) (unit : ℚ) (h : 0 < unit) :
    |roundBits precision n / unit - n / unit| ≤ roundoff * (n / unit) := by
  have hround := abs_le.mp (abs_roundBits_sub_le n)
  rw [← sub_div, ← mul_div_assoc, abs_le, ← neg_div]
  exact ⟨div_le_div_of_nonneg_right hround.1 h.le, div_le_div_of_nonneg_right hround.2 h.le⟩

/-- Twice the root of a number, rounded. A last odd digit stands for what its whole part leaves
over. -/
def roundedRoot (square : Nat) : Nat :=
  let r := isqrt square
  roundBits precision (if r * r = square then 2 * r else 2 * r + 1)

theorem roundedRoot_between {square : Nat} (h : 2 ^ precision ≤ isqrt square) :
    ∃ low high : ℚ, 0 ≤ low ∧ 0 ≤ high ∧ low ^ 2 ≤ 4 * square ∧ 4 * square ≤ high ^ 2 ∧
      (1 - roundoff) * high ≤ roundedRoot square ∧ roundedRoot square ≤ (1 + roundoff) * low := by
  have hlow : (isqrt square * isqrt square : ℚ) ≤ square := by exact_mod_cast isqrt_sq_le square
  rw [roundedRoot]
  split
  · next hexact =>
    have hexact' : (isqrt square * isqrt square : ℚ) = square := by exact_mod_cast hexact
    have hround := abs_le.mp (abs_roundBits_sub_le (2 * isqrt square))
    push_cast at hround
    -- the root is a whole number and its own bound on either side
    refine ⟨2 * isqrt square, 2 * isqrt square, by positivity, by positivity, ?_, ?_, ?_, ?_⟩ <;>
      linarith
  · have hhigh : (square : ℚ) ≤ (isqrt square + 1) * (isqrt square + 1) := by
      exact_mod_cast (lt_isqrt_succ_sq square).le
    obtain ⟨hbelow, habove⟩ := roundBits_odd_bounds h
    have hbelow' := le_add_roundoff hbelow
    have habove' := le_add_roundoff habove
    push_cast at hbelow' habove'
    refine ⟨2 * isqrt square, 2 * isqrt square + 2, by positivity, by positivity, ?_, ?_, ?_, ?_⟩ <;>
      linarith

theorem roundedRoot_sq_bounds {square : Nat} (h : 2 ^ precision ≤ isqrt square) :
    (1 - roundoff) ^ 2 * (4 * square) ≤ (roundedRoot square : ℚ) ^ 2 ∧
      (roundedRoot square : ℚ) ^ 2 ≤ (1 + roundoff) ^ 2 * (4 * square) := by
  have hu := one_sub_roundoff_pos
  obtain ⟨low, high, hlow, hhigh, hlowSq, hhighSq, hbelow, habove⟩ := roundedRoot_between h
  constructor
  · calc (1 - roundoff) ^ 2 * (4 * square) ≤ (1 - roundoff) ^ 2 * high ^ 2 := by gcongr
      _ = ((1 - roundoff) * high) ^ 2 := by ring
      _ ≤ (roundedRoot square : ℚ) ^ 2 := by gcongr
  · calc (roundedRoot square : ℚ) ^ 2 ≤ ((1 + roundoff) * low) ^ 2 := by gcongr
      _ = (1 + roundoff) ^ 2 * low ^ 2 := by ring
      _ ≤ (1 + roundoff) ^ 2 * (4 * square) := by gcongr

theorem le_isqrt_of_sq_le {r n : Nat} (h : r * r ≤ n) : r ≤ isqrt n :=
  Nat.lt_succ_iff.mp (Nat.mul_self_lt_mul_self_iff.mp (Nat.lt_of_le_of_lt h (lt_isqrt_succ_sq n)))

theorem root_eq (c : Nat) : root c = roundedRoot (radicand c * 4 ^ 64) := rfl

theorem le_isqrt_square (c : Nat) : 2 ^ 64 ≤ isqrt (radicand c * 4 ^ 64) := by
  have hround := two_pow_log2_le_roundBits (n := 8 * converted c + 1)
    (show 0 < precision by decide) (by omega)
  have hpos : 1 ≤ radicand c := Nat.le_trans Nat.one_le_two_pow hround
  apply le_isqrt_of_sq_le
  calc 2 ^ 64 * 2 ^ 64 = 1 * 4 ^ 64 := by decide
    _ ≤ radicand c * 4 ^ 64 := Nat.mul_le_mul_right _ hpos

theorem le_root (c : Nat) : 2 ^ 65 ≤ root c := by
  have hsquare := le_isqrt_square c
  rw [root_eq, roundedRoot]
  split
  all_goals
    refine Nat.le_trans (Nat.pow_le_pow_right Nat.two_pos ?_)
      (two_pow_log2_le_roundBits (by decide) (by omega))
    rw [Nat.le_log2 (by omega)]
    omega

/-- The steps in whole numbers are the rounded steps over powers of two. -/
theorem roundedSteps (c : Nat) :
    RoundedSteps c (converted c) (radicand c / 4) (root c / 2 ^ 66)
      (roundBits precision (root c - 2 ^ 65) / 2 ^ 66) := by
  have hsquare : 2 ^ precision ≤ isqrt (radicand c * 4 ^ 64) :=
    Nat.le_trans (by decide) (le_isqrt_square c)
  obtain ⟨hlow, hhigh⟩ := roundedRoot_sq_bounds hsquare
  rw [← root_eq] at hlow hhigh
  push_cast at hlow hhigh
  refine ⟨abs_roundBits_sub_le c, ?_, ?_, ?_, ?_, ?_⟩
  · have hround := abs_roundBits_div_sub_le (8 * converted c + 1) 4 (by norm_num)
    have hquarters : ((8 * converted c + 1 : Nat) / 4 : ℚ) = 2 * converted c + 1 / 4 := by
      push_cast
      ring
    rwa [hquarters] at hround
  · exact div_nonneg (Nat.cast_nonneg _) (by norm_num)
  · linarith
  · linarith
  · have hround := abs_roundBits_div_sub_le (root c - 2 ^ 65) (2 ^ 66) (by positivity)
    have hhalf : ((root c - 2 ^ 65 : Nat) / 2 ^ 66 : ℚ) = root c / 2 ^ 66 - 1 / 2 := by
      rw [Nat.cast_sub (le_root c)]
      push_cast
      ring
    rwa [hhalf] at hround

theorem diagonal_eq_floor (c : Nat) :
    diagonal c = ⌊(roundBits precision (root c - 2 ^ 65) / 2 ^ 66 : ℚ)⌋₊ := by
  have hfloor := Nat.floor_div_eq_div (K := ℚ) (roundBits precision (root c - 2 ^ 65)) (2 ^ 66)
  rw [Nat.cast_pow, Nat.cast_ofNat] at hfloor
  exact hfloor.symm

theorem radicand_zero : radicand 0 = 1 := by decide

theorem root_zero : root 0 = 2 ^ 65 := by
  have hsquare : isqrt (4 ^ 64) = 2 ^ 64 := isqrt_eq_of_sq_le (by decide) (by decide)
  rw [root_eq, radicand_zero, Nat.one_mul, roundedRoot, hsquare]
  decide

theorem diagonal_zero : diagonal 0 = 0 := by
  rw [diagonal, root_zero]
  decide

end Estimate

/-- The estimate of a key's diagonal is one off at most. -/
theorem nearDiagonal_estimate {w : UInt64} (h : w.toNat < 2 ^ 63) :
    NearDiagonal (estimate w) w.toNat := by
  rw [estimate, Estimate.diagonal_eq_floor]
  exact (Estimate.roundedSteps w.toNat).nearDiagonal h

open Estimate

/-- Rounded steps from a key end at most one off its diagonal, so one correction each way finds it.
The steps of the estimate are such steps, and none of them moves at zero. -/
theorem floor_of_roundedSteps :
    (∀ (c : Nat) (f₁ f₂ f₃ f₄ : ℚ), (c : Int) ≤ keyMax → RoundedSteps c f₁ f₂ f₃ f₄ →
      0 ≤ ⌊f₄⌋ ∧ (∀ j : Nat, IsIndex c j → |⌊f₄⌋ - j| ≤ 1) ∧
        (correct (.ofNat ⌊f₄⌋₊) (.ofNat c)).toNat = index c) ∧
      (∀ c : Nat, ∃ f₁ f₂ f₃ f₄, RoundedSteps c f₁ f₂ f₃ f₄ ∧ diagonal c = ⌊f₄⌋₊) ∧
      converted 0 = 0 ∧ (radicand 0 / 4 : ℚ) = 1 / 4 ∧ (root 0 / 2 ^ 66 : ℚ) = 1 / 2 ∧
        diagonal 0 = 0 := by
  refine ⟨?_, ?_, ?_⟩
  · intro c f₁ f₂ f₃ f₄ hkey h
    have hc : c < 2 ^ 63 := by
      rw [keyMax_eq] at hkey
      omega
    exact ⟨Int.floor_nonneg.mpr h.diagonal_nonneg, fun j hj => h.abs_floor_sub_le hc hj,
      h.toNat_correct hc⟩
  · intro c
    exact ⟨_, _, _, _, roundedSteps c, diagonal_eq_floor c⟩
  · refine ⟨by decide, ?_, ?_, diagonal_zero⟩
    · rw [radicand_zero, Nat.cast_one]
    · rw [root_zero]
      norm_num

/-- The last key before the last diagonal, on which its estimate ends. -/
theorem floor_of_roundedSteps_last_diagonal :
    (9223372034707292159 : Int) ≤ keyMax ∧
      RoundedSteps 9223372034707292159 9223372034707292160 18446744069414584320
        (4294967295 + 1 / 2) 4294967295 ∧
      IsIndex 9223372034707292159 4294967294 ∧ |⌊(4294967295 : ℚ)⌋ - (4294967294 : Nat)| ≤ 1 ∧
        (correct (.ofNat ⌊(4294967295 : ℚ)⌋₊) (.ofNat 9223372034707292159)).toNat =
          index 9223372034707292159 := by
  have hkey : (9223372034707292159 : Int) ≤ keyMax := by decide
  have hsteps : RoundedSteps 9223372034707292159 9223372034707292160 18446744069414584320
      (4294967295 + 1 / 2) 4294967295 := by
    constructor <;> norm_num [roundoff_eq, abs_le]
  have hindex : IsIndex 9223372034707292159 4294967294 := ⟨by decide, by decide⟩
  obtain ⟨-, hnear, hcorrect⟩ := floor_of_roundedSteps.1 _ _ _ _ _ hkey hsteps
  exact ⟨hkey, hsteps, hindex, hnear _ hindex, hcorrect⟩

end VoxelGrid.Batch
