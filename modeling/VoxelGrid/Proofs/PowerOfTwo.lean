import Mathlib.Data.Nat.Size
import Mathlib.Order.Bounds.Basic
import VoxelGrid.Proofs.Exponent
import VoxelGrid.Proofs.Mask

/-! Powers of two. After the smear a digit is set exactly when the number has one there or at most 63
places above. So what is left empty below the highest digit lies more than 63 places below it, and
only a number without empty places is its own smear. -/

namespace VoxelGrid.PowerOfTwo

/-- The digits of `r` are those of `n`, each copied into the `width - 1` places below it. -/
def Smeared (n width r : Nat) : Prop := ∀ i, r.testBit i ↔ ∃ k < width, n.testBit (i + k)

/-- No distance is longer than the run that the distances before it have filled. -/
def Widens : Nat → List Nat → Prop
  | _, [] => True
  | width, d :: ds => d ≤ width ∧ Widens (width + d) ds

theorem exists_testBit_of_lt_size {n i : Nat} (h : i < n.size) :
    ∃ j, i ≤ j ∧ j < n.size ∧ n.testBit j := by
  obtain ⟨j, hij, hbit⟩ := Nat.exists_ge_and_testBit_of_ge_two_pow (Nat.lt_size.mp h)
  exact ⟨j, hij, Nat.lt_size.mpr (Nat.ge_two_pow_of_testBit hbit), hbit⟩

namespace Smeared

variable {n width r : Nat}

theorem refl (n : Nat) : Smeared n 1 n := by
  intro i
  constructor
  · intro hbit
    exact ⟨0, Nat.one_pos, hbit⟩
  · rintro ⟨k, hk, hbit⟩
    obtain rfl : k = 0 := Nat.lt_one_iff.mp hk
    exact hbit

theorem step {d : Nat} (h : Smeared n width r) (hd : d ≤ width) :
    Smeared n (width + d) (r ||| r >>> d) := by
  intro i
  rw [Nat.testBit_or, Nat.testBit_shiftRight, Bool.or_eq_true, h, h]
  constructor
  · rintro (⟨k, hk, hbit⟩ | ⟨k, hk, hbit⟩)
    · exact ⟨k, by omega, hbit⟩
    · refine ⟨d + k, by omega, ?_⟩
      rwa [← Nat.add_assoc, Nat.add_comm i d]
  · rintro ⟨k, hk, hbit⟩
    rcases Nat.lt_or_ge k width with hkw | hkw
    · exact .inl ⟨k, hkw, hbit⟩
    · -- the run of `r` ends before this place, that of its copy does not begin after it
      refine .inr ⟨k - d, by omega, ?_⟩
      rwa [show d + i + (k - d) = i + k by omega]

theorem foldl {distances : List Nat} (h : Smeared n width r) (hwidens : Widens width distances) :
    Smeared n (width + distances.sum) (distances.foldl (fun r d => r ||| r >>> d) r) := by
  induction distances generalizing width r with
  | nil => exact h
  | cons d ds ih =>
    rw [List.sum_cons, ← Nat.add_assoc]
    exact ih (h.step hwidens.1) hwidens.2

theorem le (h : Smeared n width r) (hwidth : 0 < width) : n ≤ r := by
  apply Nat.le_of_testBit
  intro i hbit
  exact (h i).mpr ⟨0, hwidth, hbit⟩

theorem lt_two_pow (h : Smeared n width r) {e : Nat} (hn : n < 2 ^ e) : r < 2 ^ e := by
  by_contra hr
  obtain ⟨i, hi, hbit⟩ := Nat.exists_ge_and_testBit_of_ge_two_pow (Nat.not_lt.mp hr)
  obtain ⟨k, -, hbit⟩ := (h i).mp hbit
  have hpow : 2 ^ e ≤ 2 ^ (i + k) := Nat.pow_le_pow_right Nat.two_pos (Nat.le_add_right_of_le hi)
  exact absurd hn (Nat.not_lt.mpr (hpow.trans (Nat.ge_two_pow_of_testBit hbit)))

/-- The places that stay empty lie `width` or more below the highest digit. -/
theorem le_add_shiftRight (h : Smeared n width r) :
    2 ^ n.size - 1 ≤ r + (2 ^ n.size - 1) >>> width := by
  have hempty : (2 ^ n.size - 1) ^^^ ((2 ^ n.size - 1) &&& r) ≤ (2 ^ n.size - 1) >>> width := by
    apply Nat.le_of_testBit
    intro i hi
    rw [Nat.testBit_xor, Nat.testBit_and, Nat.testBit_two_pow_sub_one] at hi
    rw [Nat.testBit_shiftRight, Nat.testBit_two_pow_sub_one, decide_eq_true_eq]
    have hsize : i < n.size := by
      by_contra hsize
      simp [hsize] at hi
    have hclear : ¬ r.testBit i := by
      simpa [hsize] using hi
    obtain ⟨j, hij, hj, hbit⟩ := exists_testBit_of_lt_size hsize
    by_contra hnear
    apply hclear
    rw [h]
    refine ⟨j - i, by omega, ?_⟩
    rwa [Nat.add_sub_cancel' hij]
  have hsum := and_add_xor_and (2 ^ n.size - 1) r
  have hand : (2 ^ n.size - 1) &&& r ≤ r := Nat.and_le_right
  omega

/-- In a number that is its own smear no digit stands above an empty place. -/
theorem succ_eq_two_pow (h : Smeared n width n) (hwidth : 1 < width) : n + 1 = 2 ^ n.size := by
  have hbelow : ∀ k i, n.testBit (i + k) → n.testBit i := by
    intro k
    induction k with
    | zero =>
      intro i hbit
      exact hbit
    | succ k ih =>
      intro i hbit
      rw [h]
      refine ⟨1, hwidth, ih (i + 1) ?_⟩
      rwa [Nat.add_assoc, Nat.add_comm 1 k]
  have hfull : 2 ^ n.size - 1 ≤ n := by
    apply Nat.le_of_testBit
    intro i hi
    rw [Nat.testBit_two_pow_sub_one, decide_eq_true_eq] at hi
    obtain ⟨j, hij, -, hbit⟩ := exists_testBit_of_lt_size hi
    apply hbelow (j - i)
    rwa [Nat.add_sub_cancel' hij]
  have hlt := Nat.lt_size_self n
  omega

end Smeared

theorem smeared_smear (n : Nat) : Smeared n 64 (smear n) := by
  have hwidens : Widens 1 smearDistances := by simp [Widens, smearDistances]
  exact (Smeared.refl n).foldl hwidens

def IsPower (v : Int) : Prop := ∃ e : Nat, v = 2 ^ e

def powersFrom (v : Int) : Set Int := {p | v ≤ p ∧ IsPower p}

theorem IsPower.pos {v : Int} (h : IsPower v) : 0 < v := by
  obtain ⟨e, rfl⟩ := h
  exact Int.pow_pos (by decide)

theorem isLeast_powersFrom (n : Nat) : IsLeast (powersFrom (n + 1)) (2 ^ n.size) := by
  constructor
  · exact ⟨by exact_mod_cast Nat.lt_size_self n, n.size, rfl⟩
  · rintro p ⟨hle, e, rfl⟩
    have hlt : n < 2 ^ e := by exact_mod_cast hle
    exact_mod_cast Nat.pow_le_pow_right Nat.two_pos (Nat.size_le.mpr hlt)

theorem ceil_of_nonpos {v : Int} (h : v ≤ 0) : ceil v = 0 := if_pos h

theorem ceil_succ (n : Nat) : ceil (n + 1) = smear n + 1 := by
  rw [ceil, if_neg (by omega), add_sub_cancel_right, Int.toNat_natCast]

theorem le_ceil {v : Int} (h : 0 < v) : v ≤ ceil v := by
  obtain ⟨n, rfl⟩ := Int.eq_succ_of_zero_lt h
  have hle := (smeared_smear n).le (by decide)
  rw [ceil_succ]
  omega

theorem ceil_le {v p : Int} (h : 0 < v) (hp : p ∈ powersFrom v) : ceil v ≤ p := by
  obtain ⟨n, rfl⟩ := Int.eq_succ_of_zero_lt h
  obtain ⟨hle, e, rfl⟩ := hp
  have hlt : n < 2 ^ e := by exact_mod_cast hle
  rw [ceil_succ]
  exact_mod_cast (smeared_smear n).lt_two_pow hlt

theorem least_sub_ceil_le {v p : Int} (h : 0 < v) (hp : IsLeast (powersFrom v) p) :
    p - ceil v ≤ (p - 1) / 2 ^ 64 := by
  obtain ⟨n, rfl⟩ := Int.eq_succ_of_zero_lt h
  obtain rfl := hp.unique (isLeast_powersFrom n)
  have hfill := (smeared_smear n).le_add_shiftRight
  have hpos := Nat.two_pow_pos n.size
  have hcast : ((2 ^ n.size : Nat) : Int) = 2 ^ n.size := Nat.cast_pow 2 n.size
  rw [Nat.shiftRight_eq_div_pow] at hfill
  rw [ceil_succ]
  omega

theorem not_isLeast_ceil : ¬ IsLeast (powersFrom (2 ^ 64 + 1)) (ceil (2 ^ 64 + 1)) := by
  intro h
  have hleast : IsLeast (powersFrom (2 ^ 64 + 1)) (2 ^ (2 ^ 64).size) := isLeast_powersFrom (2 ^ 64)
  rw [Nat.size_pow] at hleast
  exact absurd (h.unique hleast) (by decide)

theorem holds_iff_isPower {v : Int} : holds v ↔ IsPower v := by
  rw [holds, Bool.and_eq_true, decide_eq_true_eq, decide_eq_true_eq]
  constructor
  · rintro ⟨hpos, hceil⟩
    obtain ⟨n, rfl⟩ := Int.eq_succ_of_zero_lt hpos
    rw [ceil_succ] at hceil
    have hself : smear n = n := by omega
    have hsmeared := smeared_smear n
    rw [hself] at hsmeared
    exact ⟨n.size, by exact_mod_cast hsmeared.succ_eq_two_pow (by decide)⟩
  · intro h
    exact ⟨h.pos, le_antisymm (le_ceil h.pos) (ceil_le h.pos ⟨le_rfl, h⟩)⟩

section Exponents

variable {size : Int}

theorem exponentOfSize_eq_ok_iff {power : Int} :
    exponentOfSize size = .ok power ↔ 0 ≤ power ∧ size = 2 ^ power.toNat := by
  unfold exponentOfSize
  constructor
  · intro h
    split at h
    · next hholds =>
      obtain ⟨e, rfl⟩ := holds_iff_isPower.mp hholds
      cases h
      rw [exponent_two_pow]
      exact ⟨Int.natCast_nonneg e, by rw [Int.toNat_natCast]⟩
    · cases h
  · rintro ⟨hpower, rfl⟩
    rw [if_pos (holds_iff_isPower.mpr ⟨_, rfl⟩), exponent_two_pow, Int.toNat_of_nonneg hpower]

theorem exponentOfSize_eq_error_iff {e : Error} :
    exponentOfSize size = .error e ↔ ¬ IsPower size ∧ e = (Error.notPowerOfTwo size).raised := by
  rw [← holds_iff_isPower, exponentOfSize]
  split
  · next hholds => exact iff_of_false nofun fun h => h.1 hholds
  · next hholds =>
    rw [Except.error.injEq, and_iff_right hholds, eq_comm]

theorem exists_exponentOfSize_iff : (∃ power, exponentOfSize size = .ok power) ↔ IsPower size := by
  constructor
  · rintro ⟨power, h⟩
    exact ⟨_, (exponentOfSize_eq_ok_iff.mp h).2⟩
  · rintro ⟨e, rfl⟩
    exact ⟨e, exponentOfSize_eq_ok_iff.mpr ⟨Int.natCast_nonneg e, by rw [Int.toNat_natCast]⟩⟩

end Exponents

/-- Up to `2 ^ 64` the result is the least power of two from the number on. Above it is no less than
the number and misses that power by less than its `2 ^ 64`th part. -/
theorem ceil_near_least (v : Int) :
    (v ≤ 0 → ceil v = 0) ∧
    (0 < v → ∃ p, IsLeast (powersFrom v) p ∧ v ≤ ceil v ∧ ceil v ≤ p ∧
      p - ceil v ≤ (p - 1) / 2 ^ 64 ∧
      (v ≤ 2 ^ 64 → ceil v = p) ∧ (p - ceil v) * 2 ^ 64 < p) := by
  refine ⟨ceil_of_nonpos, fun h => ?_⟩
  obtain ⟨p, hp⟩ : ∃ p, IsLeast (powersFrom v) p := by
    obtain ⟨n, rfl⟩ := Int.eq_succ_of_zero_lt h
    exact ⟨_, isLeast_powersFrom n⟩
  have hlow := le_ceil h
  have hhigh := ceil_le h hp.1
  have hgap := least_sub_ceil_le h hp
  refine ⟨p, hp, hlow, hhigh, hgap, ?_, by omega⟩
  intro hsmall
  have hle : p ≤ 2 ^ 64 := hp.2 ⟨hsmall, 64, rfl⟩
  omega

/-- The least number whose smear leaves a place empty. -/
example : ceil (2 ^ 64 + 1) = 2 ^ 65 - 1 := by decide

/-- The ends of the range in which the result is exact, and the first number after it. -/
theorem ceil_near_least_limit :
    ceil 0 = 0 ∧ (∃ p, IsLeast (powersFrom (2 ^ 64)) p ∧ ceil (2 ^ 64) = p) ∧
      ∃ p, IsLeast (powersFrom (2 ^ 64 + 1)) p ∧ ceil (2 ^ 64 + 1) < p ∧
        (p - ceil (2 ^ 64 + 1)) * 2 ^ 64 < p := by
  refine ⟨(ceil_near_least 0).1 le_rfl, ?_, ?_⟩
  · obtain ⟨p, hp, -, -, -, hexact, -⟩ := (ceil_near_least (2 ^ 64)).2 (by decide)
    exact ⟨p, hp, hexact le_rfl⟩
  · obtain ⟨p, hp, -, hle, -, -, hgap⟩ := (ceil_near_least (2 ^ 64 + 1)).2 (by decide)
    refine ⟨p, hp, lt_of_le_of_ne hle ?_, hgap⟩
    rintro rfl
    exact not_isLeast_ceil hp

/-- The test is exact for numbers of any size, also where what it compares them with is not the
least power of two. -/
theorem holds_exactly_powers :
    (∀ v : Int, holds v = true ↔ ∃ e : Nat, v = 2 ^ e) ∧
      ∃ v : Int, 2 ^ 64 < v ∧ ¬ IsLeast (powersFrom v) (ceil v) :=
  ⟨fun _ => holds_iff_isPower, 2 ^ 64 + 1, by decide, not_isLeast_ceil⟩

end VoxelGrid.PowerOfTwo
