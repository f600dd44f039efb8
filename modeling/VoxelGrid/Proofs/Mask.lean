import Mathlib.Algebra.Order.Ring.Int
import Mathlib.Data.Int.Bitwise
import VoxelGrid.Shift

/-! Masking of integers. A number is its digits, without an end to the left, and masking leaves the
digits that number and mask share. Those of a mask that a number has and those that it lacks make up
the mask; a mask of the lowest `e` digits leaves the remainder by `2 ^ e`, for negative numbers too.
Cutting numbers to a width and masking them can be done in either order. -/

namespace VoxelGrid

/-- Past the digits of both numbers only their signs are left, and these differ. -/
theorem exists_testBit_ne_of_sign (a b : Nat) :
    ∃ i, (Int.ofNat a).testBit i ≠ (Int.negSucc b).testBit i := by
  have ha : a < 2 ^ (a + b) :=
    Nat.lt_two_pow_self.trans_le (Nat.pow_le_pow_right Nat.two_pos (Nat.le_add_right a b))
  have hb : b < 2 ^ (a + b) :=
    Nat.lt_two_pow_self.trans_le (Nat.pow_le_pow_right Nat.two_pos (Nat.le_add_left b a))
  refine ⟨a + b, ?_⟩
  rw [Int.testBit, Int.testBit, Nat.testBit_lt_two_pow ha, Nat.testBit_lt_two_pow hb]
  decide

theorem eq_of_testBit_eq {v w : Int} (h : ∀ i, v.testBit i = w.testBit i) : v = w := by
  rcases v with a | a <;> rcases w with b | b
  case ofNat.ofNat => exact congrArg Int.ofNat (Nat.eq_of_testBit_eq h)
  case ofNat.negSucc =>
    obtain ⟨i, hi⟩ := exists_testBit_ne_of_sign a b
    exact absurd (h i) hi
  case negSucc.ofNat =>
    obtain ⟨i, hi⟩ := exists_testBit_ne_of_sign b a
    exact absurd (h i).symm hi
  case negSucc.negSucc =>
    exact congrArg Int.negSucc (Nat.eq_of_testBit_eq fun i => Bool.not_inj (h i))

/-- A digit is left where both numbers have one. -/
theorem testBit_maskBits (w mask : Int) (i : Nat) :
    (maskBits w mask).testBit i = (w.testBit i && mask.testBit i) := by
  rcases w with w | w <;> rcases mask with mask | mask <;>
    simp only [maskBits, Int.testBit, Nat.testBit_and, Nat.testBit_or, Nat.testBit_xor]
  case ofNat.negSucc => cases w.testBit i <;> cases mask.testBit i <;> rfl
  case negSucc.ofNat => cases w.testBit i <;> cases mask.testBit i <;> rfl
  case negSucc.negSucc => exact Bool.not_or ..

theorem maskBits_comm (w mask : Int) : maskBits w mask = maskBits mask w := by
  apply eq_of_testBit_eq
  intro i
  rw [testBit_maskBits, testBit_maskBits, Bool.and_comm]

theorem maskBits_maskBits (w mask : Int) : maskBits (maskBits w mask) mask = maskBits w mask := by
  apply eq_of_testBit_eq
  intro i
  rw [testBit_maskBits, testBit_maskBits, Bool.and_assoc, Bool.and_self]

theorem maskBits_neg_one (w : Int) : maskBits w (-1) = w := by
  apply eq_of_testBit_eq
  intro i
  have hone : (-1 : Int).testBit i = true := congrArg not (Nat.zero_testBit i)
  rw [testBit_maskBits, hone, Bool.and_true]

theorem and_add_xor_and (mask w : Nat) : (mask &&& w) + (mask ^^^ (mask &&& w)) = mask := by
  induction mask using Nat.strongRecOn generalizing w with
  | ind mask ih =>
    rcases Nat.eq_zero_or_pos mask with rfl | hpos
    · simp
    have hhalf := ih (mask / 2) (Nat.div_lt_self hpos Nat.one_lt_two) (w / 2)
    rw [← Nat.and_div_two, ← Nat.xor_div_two] at hhalf
    have hand := Nat.and_mod_two_eq_one (a := mask) (b := w)
    have hxor := Nat.xor_mod_two_eq_one (a := mask) (b := mask &&& w)
    omega

theorem maskBits_negSucc (w mask : Nat) :
    maskBits (.negSucc w) mask = (mask : Int) - (mask &&& w : Nat) := by
  have hmask := and_add_xor_and mask w
  change ((mask ^^^ (mask &&& w) : Nat) : Int) = _
  omega

theorem maskBits_two_pow_sub_one (w : Int) (e : Nat) : maskBits w (2 ^ e - 1) = w % 2 ^ e := by
  have hmask : (2 : Int) ^ e - 1 = (2 ^ e - 1 : Nat) := by
    rw [Nat.cast_sub (Nat.two_pow_pos e)]
    push_cast
    rfl
  cases w with
  | ofNat w =>
    rw [hmask, Int.ofNat_eq_natCast]
    change ((w &&& (2 ^ e - 1) : Nat) : Int) = _
    rw [Nat.and_two_pow_sub_one_eq_mod]
    rfl
  | negSucc w =>
    rw [Int.negSucc_emod _ (Int.pow_pos (by decide)), hmask, maskBits_negSucc, Nat.and_comm,
      Nat.and_two_pow_sub_one_eq_mod]
    rfl

theorem maskBits_le_of_nonneg (w : Int) {mask : Int} (h : 0 ≤ mask) :
    0 ≤ maskBits w mask ∧ maskBits w mask ≤ mask := by
  lift mask to Nat using h
  cases w with
  | ofNat w =>
    have hle : w &&& mask ≤ mask := Nat.and_le_right
    change 0 ≤ ((w &&& mask : Nat) : Int) ∧ ((w &&& mask : Nat) : Int) ≤ mask
    omega
  | negSucc w =>
    have hle : mask &&& w ≤ mask := Nat.and_le_left
    rw [maskBits_negSucc]
    omega

theorem maskBits_bounds {w mask : Int} {n : Nat} (hw : -2 ^ n ≤ w ∧ w < 2 ^ n)
    (hmask : -2 ^ n ≤ mask ∧ mask < 2 ^ n) :
    -2 ^ n ≤ maskBits w mask ∧ maskBits w mask < 2 ^ n := by
  rcases le_or_gt 0 mask with hpos | hneg
  · have h := maskBits_le_of_nonneg w hpos
    omega
  rcases le_or_gt 0 w with hpos | hneg'
  · have h := maskBits_le_of_nonneg mask hpos
    rw [maskBits_comm]
    omega
  · obtain ⟨mask, rfl⟩ := Int.eq_negSucc_of_lt_zero hneg
    obtain ⟨w, rfl⟩ := Int.eq_negSucc_of_lt_zero hneg'
    have hcast : ((2 ^ n : Nat) : Int) = 2 ^ n := by push_cast; rfl
    have hor : w ||| mask < 2 ^ n := Nat.or_lt_two_pow (by omega) (by omega)
    simp only [maskBits]
    omega

theorem xor_and_self {n : Nat} (x y : BitVec n) : x ^^^ (x &&& y) = x &&& ~~~y := by
  ext i hi
  cases h : x[i] <;> simp [h]

theorem ofInt_maskBits (n : Nat) (w mask : Int) :
    BitVec.ofInt n (maskBits w mask) = BitVec.ofInt n w &&& BitVec.ofInt n mask := by
  rcases w with w | w <;> rcases mask with mask | mask <;>
    simp only [maskBits, Int.ofNat_eq_natCast, BitVec.ofInt_natCast,
      BitVec.ofInt_negSucc_eq_not_ofNat, BitVec.ofNat_and, BitVec.ofNat_or, BitVec.ofNat_xor,
      xor_and_self]
  case negSucc.ofNat => exact BitVec.and_comm ..
  case negSucc.negSucc => exact BitVec.not_or

end VoxelGrid
