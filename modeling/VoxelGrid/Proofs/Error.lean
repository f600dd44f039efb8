import Mathlib.Algebra.Order.Ring.Int
import VoxelGrid.Error

/-! Integers that can be written, and errors as they are raised. An error is raised as itself as long
as each integer in its message can be written. -/

namespace VoxelGrid

section Numerals

variable {m n : Int}

theorem HasNumeral.of_natAbs_le (hn : HasNumeral n) (h : m.natAbs ≤ n.natAbs) : HasNumeral m :=
  Nat.lt_of_le_of_lt h hn

theorem hasNumeral_iff : HasNumeral n ↔ n.natAbs < 10 ^ maxDigits := by
  rw [HasNumeral, Nat.pow_eq]

theorem lt_pow_maxDigits {k : Nat} (digits : Nat) (hdigits : digits ≤ maxDigits)
    (h : k < 10 ^ digits) : k < 10 ^ maxDigits :=
  h.trans_le (Nat.pow_le_pow_right (by decide) hdigits)

theorem hasNumeral_of_lt (digits : Nat) (hdigits : digits ≤ maxDigits) (h : n.natAbs < 10 ^ digits) :
    HasNumeral n :=
  hasNumeral_iff.mpr (lt_pow_maxDigits digits hdigits h)

theorem hasNumeral_neg_iff : HasNumeral (-n) ↔ HasNumeral n := by
  rw [HasNumeral, Int.natAbs_neg, HasNumeral]

/-- The least natural number that cannot be written. -/
theorem not_hasNumeral_pow : ¬ HasNumeral (10 ^ maxDigits) := by
  have hten : (10 : Int).natAbs = 10 := rfl
  rw [hasNumeral_iff, Int.natAbs_pow, hten]
  exact lt_irrefl _

/-! Decimal forms -/

theorem toList_toString_of_nonneg (h : 0 ≤ n) :
    (toString n).toList = Nat.toDigits 10 n.natAbs := by
  lift n to Nat using h
  simp [Int.repr, Nat.toList_repr]

theorem toList_toString_of_neg (h : n < 0) :
    (toString n).toList = '-' :: Nat.toDigits 10 n.natAbs := by
  obtain ⟨n, rfl⟩ := Int.eq_negSucc_of_lt_zero h
  simp [Int.repr, Nat.toList_repr]

theorem hasNumeral_iff_length :
    HasNumeral n ↔ (Nat.toDigits 10 n.natAbs).length ≤ maxDigits := by
  rw [hasNumeral_iff, Nat.length_toDigits_le_iff (by decide) (by decide)]

theorem maxDigits_lt_length_toString (h : ¬ HasNumeral n) : maxDigits < (toString n).length := by
  rw [hasNumeral_iff_length, not_le] at h
  rw [← String.length_toList]
  rcases le_or_gt 0 n with hn | hn
  · rwa [toList_toString_of_nonneg hn]
  · rw [toList_toString_of_neg hn, List.length_cons]
    exact h.trans (Nat.lt_succ_self _)

end Numerals

namespace Error

variable {e : Error} {n : Int}

theorem raised_of_forall (h : ∀ n ∈ e.integers, HasNumeral n) : e.raised = e := if_pos h

theorem raised_of_not (h : ¬ ∀ n ∈ e.integers, HasNumeral n) : e.raised = .tooManyDigits := if_neg h

theorem forall_integers_iff (h : e.integers = [n]) :
    (∀ m ∈ e.integers, HasNumeral m) ↔ HasNumeral n := by
  rw [h, List.forall_mem_singleton]

theorem raised_of_hasNumeral (h : e.integers = [n]) (hn : HasNumeral n) : e.raised = e :=
  raised_of_forall ((forall_integers_iff h).mpr hn)

theorem raised_of_not_hasNumeral (h : e.integers = [n]) (hn : ¬ HasNumeral n) :
    e.raised = .tooManyDigits :=
  raised_of_not ((forall_integers_iff h).not.mpr hn)

theorem isKeyRange_raised_iff :
    e.raised.isKeyRange = true ↔ e.isKeyRange = true ∧ ∀ n ∈ e.integers, HasNumeral n := by
  by_cases h : ∀ n ∈ e.integers, HasNumeral n
  · rw [raised_of_forall h, and_iff_left h]
  · rw [raised_of_not h]
    exact iff_of_false (by decide) fun hboth => h hboth.2

end Error

end VoxelGrid
