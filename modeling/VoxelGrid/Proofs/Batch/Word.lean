import Mathlib.Tactic.Linarith
import VoxelGrid.Batch.Keys
import VoxelGrid.Proofs.Key.Diagonal

/-! Words and the numbers they stand for. An operation fits when it does not wrap, and then gives
the word of the exact result. The triangular numbers of all diagonals below `2 ^ 32` fit, and
folding of any word does. -/

namespace VoxelGrid.Word

def AddFits (a b : UInt64) : Prop := a.toNat + b.toNat < 2 ^ 64

def MulFits (a b : UInt64) : Prop := a.toNat * b.toNat < 2 ^ 64

def SubFits (a b : UInt64) : Prop := b.toNat ≤ a.toNat

theorem AddFits.toNat {a b : UInt64} (h : AddFits a b) : (a + b).toNat = a.toNat + b.toNat := by
  rw [UInt64.toNat_add, Nat.mod_eq_of_lt h]

theorem MulFits.toNat {a b : UInt64} (h : MulFits a b) : (a * b).toNat = a.toNat * b.toNat := by
  rw [UInt64.toNat_mul, Nat.mod_eq_of_lt h]

theorem SubFits.toNat {a b : UInt64} (h : SubFits a b) : (a - b).toNat = a.toNat - b.toNat :=
  UInt64.toNat_sub_of_le _ _ (UInt64.le_iff_toNat_le.mpr h)

theorem toNat_add_one {a : UInt64} (h : AddFits a 1) : (a + 1).toNat = a.toNat + 1 := h.toNat

theorem toNat_mul_two {a : UInt64} (h : a.toNat < 2 ^ 63) : (a * 2).toNat = a.toNat * 2 := by
  have hfits : MulFits a 2 := by
    change a.toNat * 2 < 2 ^ 64
    omega
  exact hfits.toNat

theorem nonneg_iff {x : Int64} : 0 ≤ x ↔ 0 ≤ x.toInt := Int64.le_iff_toInt_le

theorem toNat_toUInt64_of_nonneg {x : Int64} (h : 0 ≤ x.toInt) :
    (x.toUInt64.toNat : Int) = x.toInt := by
  rw [Int64.toNat_toUInt64_of_le (nonneg_iff.mpr h)]
  exact Int.toNat_of_nonneg h

theorem toInt_toInt64_of_lt {y : UInt64} (h : y.toNat < 2 ^ 63) : y.toInt64.toInt = y.toNat := by
  have hint : y.toInt64.toInt = (y.toNat : Int).bmod (2 ^ 64) := BitVec.toInt_eq_toNat_bmod _
  rw [hint, Int.bmod_eq_of_le (by omega) (by omega)]

theorem toInt_neg_succ {x : Int64} (h : x.toInt < 0) : (-(x + 1)).toInt = -x.toInt - 1 := by
  have hlow := x.le_toInt
  -- negation itself would overflow at the lowest word, and it is off by one from there
  have hsucc : (x + 1).toInt = x.toInt + 1 := by
    rw [Int64.toInt_add]
    exact Int.bmod_eq_of_le (by change _ ≤ x.toInt + 1; omega) (by change x.toInt + 1 < _; omega)
  rw [Int64.toInt_neg, hsucc, Int.bmod_eq_of_le (by omega) (by omega)]
  omega

end VoxelGrid.Word

namespace VoxelGrid.Batch

open Word

structure TriangleFits (j : UInt64) : Prop where
  succ : AddFits j 1
  product : MulFits j (j + 1)

theorem triangleFits_of_lt {j : UInt64} (h : j.toNat < 2 ^ 32) : TriangleFits j := by
  have hsucc : AddFits j 1 := by
    change j.toNat + 1 < 2 ^ 64
    omega
  refine ⟨hsucc, ?_⟩
  rw [MulFits, toNat_add_one hsucc]
  exact (Nat.mul_le_mul (Nat.le_pred_of_lt h) h).trans_lt (by decide)

theorem TriangleFits.toNat {j : UInt64} (h : TriangleFits j) :
    (triangle j).toNat = Diagonal.triangle j.toNat := by
  have hhalf : (triangle j).toNat = (j * (j + 1)).toNat / 2 := UInt64.toNat_div _ 2
  rw [hhalf, h.product.toNat, toNat_add_one h.succ, Diagonal.triangle]

theorem triangle_le_of_lt {j : Nat} (h : j < 2 ^ 32) :
    Diagonal.triangle j ≤ 2 ^ 31 * (2 ^ 32 - 1) :=
  (Diagonal.triangle_mono (Nat.le_pred_of_lt h)).trans (by decide)

/-- Diagonal `2 ^ 32` starts past the largest key. -/
theorem index_lt_of_lt {c : Nat} (h : c < 2 ^ 63) : Diagonal.index c < 2 ^ 32 := by
  by_contra hindex
  have hstart := Diagonal.triangle_le_iff.mpr (not_lt.mp hindex)
  have hvalue : Diagonal.triangle (2 ^ 32) = 2 ^ 63 + 2 ^ 31 := by decide
  omega

theorem toNat_foldWord (x : Int64) : ((foldWord x).toNat : Int) = ZigZag.fold x.toInt := by
  have hhigh := x.toInt_lt
  have hlow := x.le_toInt
  rw [foldWord, ZigZag.fold]
  by_cases h : 0 ≤ x.toInt
  · have hx := toNat_toUInt64_of_nonneg h
    rw [if_pos (nonneg_iff.mpr h), if_pos h, toNat_mul_two (by omega)]
    omega
  · have hneg := toInt_neg_succ (not_le.mp h)
    have hx := toNat_toUInt64_of_nonneg (x := -(x + 1)) (by omega)
    have hmul := toNat_mul_two (a := (-(x + 1)).toUInt64) (by omega)
    have hadd : AddFits ((-(x + 1)).toUInt64 * 2) 1 := by
      change _ + 1 < 2 ^ 64
      omega
    rw [if_neg (nonneg_iff.not.mpr h), if_neg h, toNat_add_one hadd, hmul]
    omega

theorem toInt_unfoldWord (y : UInt64) : (unfoldWord y).toInt = ZigZag.unfold y.toNat := by
  have hlt := y.toNat_lt
  have hhalf : (y >>> 1).toNat = y.toNat / 2 := by
    rw [UInt64.toNat_shiftRight]
    exact Nat.shiftRight_eq_div_pow _ 1
  have hword : (y >>> 1).toInt64.toInt = (y.toNat / 2 : Nat) := by
    rw [toInt_toInt64_of_lt (by omega), hhalf]
  have hbit : y &&& 1 = 0 ↔ y.toNat % 2 = 0 := by
    rw [← UInt64.toNat_inj, UInt64.toNat_and]
    change y.toNat &&& 1 = 0 ↔ _
    rw [Nat.and_one_is_mod]
  rw [unfoldWord, ZigZag.unfold]
  by_cases h : y.toNat % 2 = 0
  · rw [if_pos (hbit.mpr h), if_pos (by omega), hword]
    omega
  · rw [if_neg (hbit.not.mpr h), if_neg (by omega), Int64.toInt_sub, Int64.toInt_neg, hword]
    change ((-((y.toNat / 2 : Nat) : Int)).bmod (2 ^ 64) - 1).bmod (2 ^ 64) = _
    rw [Int.bmod_eq_of_le (n := -_) (by omega) (by omega), Int.bmod_eq_of_le (by omega) (by omega)]
    omega

end VoxelGrid.Batch
