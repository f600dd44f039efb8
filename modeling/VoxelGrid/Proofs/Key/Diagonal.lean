import Mathlib.Tactic.Linarith
import Mathlib.Tactic.Ring
import VoxelGrid.Key.Diagonal

/-! The diagonals as triangular numbers. Diagonal `j` starts at `triangle j`, each number lies on
exactly one diagonal, and `index` finds it. So `pair` and `unpair` are inverse bijections. -/

namespace VoxelGrid.Diagonal

def triangle (j : Nat) : Nat := j * (j + 1) / 2

/-- The number `c` lies on diagonal `j`. -/
def IsIndex (c j : Nat) : Prop := triangle j ≤ c ∧ c < triangle (j + 1)

theorem two_mul_triangle (j : Nat) : 2 * triangle j = j * (j + 1) :=
  Nat.mul_div_cancel' (Nat.even_mul_succ_self j).two_dvd

theorem triangle_succ (j : Nat) : triangle (j + 1) = triangle j + j + 1 := by
  have h := two_mul_triangle j
  have hs := two_mul_triangle (j + 1)
  linarith

theorem triangle_mono {i j : Nat} (h : i ≤ j) : triangle i ≤ triangle j :=
  Nat.div_le_div_right (Nat.mul_le_mul h (Nat.succ_le_succ h))

theorem le_triangle (j : Nat) : j ≤ triangle j := by
  have h := two_mul_triangle j
  rcases Nat.eq_zero_or_pos j with rfl | hpos
  · exact Nat.zero_le _
  · have hmul : j * 2 ≤ j * (j + 1) := Nat.mul_le_mul_left j (Nat.succ_le_succ hpos)
    omega

theorem IsIndex.unique {c i j : Nat} (hi : IsIndex c i) (hj : IsIndex c j) : i = j := by
  rcases Nat.lt_trichotomy i j with h | h | h
  · exact absurd (hi.2.trans_le (triangle_mono h)) (Nat.not_lt.mpr hj.1)
  · exact h
  · exact absurd (hj.2.trans_le (triangle_mono h)) (Nat.not_lt.mpr hi.1)

/-- Multiplied by 8, the ends of a diagonal become squares of odd numbers. -/
theorem isIndex_iff_sq (c j : Nat) :
    IsIndex c j ↔ (2 * j + 1) ^ 2 ≤ 8 * c + 1 ∧ 8 * c + 1 < (2 * j + 3) ^ 2 := by
  have h := two_mul_triangle j
  have hs := two_mul_triangle (j + 1)
  have hlow : (2 * j + 1) ^ 2 = 8 * triangle j + 1 := by linarith
  have hhigh : (2 * j + 3) ^ 2 = 8 * triangle (j + 1) + 1 := by linarith
  rw [IsIndex, hlow, hhigh]
  omega

/-- The same without whole numbers, where the ends are half a step off the diagonals. -/
theorem sq_bounds_of_isIndex {K : Type*} [Field K] [LinearOrder K] [IsStrictOrderedRing K]
    {c j : Nat} (h : IsIndex c j) :
    ((j : K) + 1 / 2) ^ 2 ≤ 2 * c + 1 / 4 ∧ (2 * c + 1 / 4 : K) < (j + 3 / 2) ^ 2 := by
  obtain ⟨hlow, hhigh⟩ := (isIndex_iff_sq c j).mp h
  have hlow' : (2 * (j : K) + 1) ^ 2 ≤ 8 * c + 1 := by exact_mod_cast hlow
  have hhigh' : (8 * c + 1 : K) < (2 * j + 3) ^ 2 := by exact_mod_cast hhigh
  constructor <;> linarith

theorem isIndex_index (c : Nat) : IsIndex c (index c) := by
  have hle := isqrt_sq_le (8 * c + 1)
  have hlt := lt_isqrt_succ_sq (8 * c + 1)
  have hpos : 0 < isqrt (8 * c + 1) := by
    by_contra h
    rw [Nat.eq_zero_of_not_pos h] at hlt
    omega
  -- the root is `2 * index c + 1` or one more
  have hlow : 2 * index c + 1 ≤ isqrt (8 * c + 1) := by rw [index]; omega
  have hhigh : isqrt (8 * c + 1) + 1 ≤ 2 * index c + 3 := by rw [index]; omega
  rw [isIndex_iff_sq, sq, sq]
  exact ⟨(Nat.mul_le_mul hlow hlow).trans hle, hlt.trans_le (Nat.mul_le_mul hhigh hhigh)⟩

theorem index_eq_iff {c j : Nat} : index c = j ↔ IsIndex c j :=
  ⟨fun h => h ▸ isIndex_index c, fun h => (isIndex_index c).unique h⟩

theorem triangle_le_iff {c j : Nat} : triangle j ≤ c ↔ j ≤ index c := by
  obtain ⟨hle, hlt⟩ := isIndex_index c
  constructor
  · intro h
    by_contra hj
    exact absurd (triangle_mono (not_le.mp hj)) (not_le.mpr (h.trans_lt hlt))
  · intro h
    exact (triangle_mono h).trans hle

theorem index?_natCast (c : Nat) : index? c = .ok (index c : Int) := by
  rw [index?, if_neg (by omega), Int.toNat_natCast]

theorem index?_of_neg {c : Int} (h : c < 0) : index? c = .error .negativeRoot := if_pos h

theorem pair_natCast (first second : Nat) :
    pair first second = ((triangle (first + second) + second : Nat) : Int) := by
  simp [pair, triangle]

theorem pair_nonneg {first second : Int} (h1 : 0 ≤ first) (h2 : 0 ≤ second) :
    0 ≤ pair first second := by
  lift first to Nat using h1
  lift second to Nat using h2
  rw [pair_natCast]
  exact Int.natCast_nonneg _

theorem add_le_pair {first second : Int} (h1 : 0 ≤ first) (h2 : 0 ≤ second) :
    first + second ≤ pair first second := by
  lift first to Nat using h1
  lift second to Nat using h2
  have h := le_triangle (first + second)
  rw [pair_natCast]
  omega

theorem pair_lt_sq {first second : Int} (h1 : 0 ≤ first) (h2 : 0 ≤ second) :
    pair first second < (first + second + 1) ^ 2 := by
  lift first to Nat using h1
  lift second to Nat using h2
  have htwo := two_mul_triangle (first + second)
  rw [pair_natCast]
  norm_cast
  nlinarith

theorem mul_succ_le_two_mul_pair {first second : Int} (h1 : 0 ≤ first) (h2 : 0 ≤ second) :
    first * (first + 1) ≤ 2 * pair first second := by
  lift first to Nat using h1
  lift second to Nat using h2
  have htwo := two_mul_triangle (first + second)
  rw [pair_natCast]
  norm_cast
  nlinarith

theorem index_pair (first second : Nat) :
    index (triangle (first + second) + second) = first + second := by
  rw [index_eq_iff, IsIndex, triangle_succ]
  omega

theorem unpair_natCast (c : Nat) :
    unpair c =
      .ok ((index c : Int) - (c - triangle (index c)), (c : Int) - triangle (index c)) := by
  simp [unpair, index?_natCast, triangle, bind, Except.bind, pure, Except.pure]

theorem unpair_of_neg {c : Int} (h : c < 0) : unpair c = .error .negativeRoot := by
  rw [unpair, index?_of_neg h]
  rfl

/-- Every natural number is the place of exactly one pair of natural numbers. -/
theorem unpair_eq_ok_iff {c first second : Int} :
    unpair c = .ok (first, second) ↔ 0 ≤ first ∧ 0 ≤ second ∧ pair first second = c := by
  constructor
  · intro h
    have hc : 0 ≤ c := by
      by_contra hneg
      rw [unpair_of_neg (not_le.mp hneg)] at h
      cases h
    lift c to Nat using hc
    rw [unpair_natCast] at h
    cases h
    obtain ⟨hle, hlt⟩ := isIndex_index c
    rw [triangle_succ] at hlt
    refine ⟨by omega, by omega, ?_⟩
    have htwo := two_mul_triangle (index c)
    rw [pair, sub_add_cancel]
    norm_cast
    omega
  · rintro ⟨h1, h2, rfl⟩
    lift first to Nat using h1
    lift second to Nat using h2
    rw [pair_natCast, unpair_natCast, index_pair]
    push_cast
    ring_nf

theorem exists_unpair {c : Int} (h : 0 ≤ c) :
    ∃ first second, 0 ≤ first ∧ 0 ≤ second ∧ unpair c = .ok (first, second) := by
  lift c to Nat using h
  have hunpair := unpair_natCast c
  obtain ⟨h1, h2, -⟩ := unpair_eq_ok_iff.mp hunpair
  exact ⟨_, _, h1, h2, hunpair⟩

/-- The components taken one at a time are those taken together. -/
theorem unpair_eq_unpairFirst_unpairSecond (c : Int) :
    unpair c = do return (← unpairFirst c, ← unpairSecond c) := by
  rw [unpair, unpairFirst, unpairSecond]
  rcases index? c with e | j <;> rfl

theorem unpairSecond_of_neg {c : Int} (h : c < 0) : unpairSecond c = .error .negativeRoot := by
  rw [unpairSecond, index?_of_neg h]
  rfl

theorem unpairFirst_of_neg {c : Int} (h : c < 0) : unpairFirst c = .error .negativeRoot := by
  rw [unpairFirst, index?_of_neg h]
  rfl

/-- Pairs of natural numbers and their places determine each other, without a limit to either. -/
theorem pair_unpair_inverse :
    (∀ first second : Int, 0 ≤ first → 0 ≤ second →
      0 ≤ pair first second ∧ unpair (pair first second) = .ok (first, second)) ∧
    (∀ c : Int, 0 ≤ c → ∃ first second, unpair c = .ok (first, second) ∧
      0 ≤ first ∧ 0 ≤ second ∧ pair first second = c) ∧
    (∀ c : Int, unpair c = do return (← unpairFirst c, ← unpairSecond c)) ∧
    ∀ c : Int, c < 0 → unpair c = .error .negativeRoot ∧
      unpairFirst c = .error .negativeRoot ∧ unpairSecond c = .error .negativeRoot := by
  refine ⟨?_, ?_, unpair_eq_unpairFirst_unpairSecond, ?_⟩
  · intro first second h1 h2
    exact ⟨pair_nonneg h1 h2, unpair_eq_ok_iff.mpr ⟨h1, h2, rfl⟩⟩
  · intro c h
    obtain ⟨first, second, -, -, hunpair⟩ := exists_unpair h
    exact ⟨first, second, hunpair, unpair_eq_ok_iff.mp hunpair⟩
  · intro c h
    exact ⟨unpair_of_neg h, unpairFirst_of_neg h, unpairSecond_of_neg h⟩

/-- The ends of a diagonal past every machine word, the place before it, and a negative number. -/
theorem pair_unpair_inverse_large :
    unpair (pair (2 ^ 70) 0) = .ok (2 ^ 70, 0) ∧ unpair (pair 0 (2 ^ 70)) = .ok (0, 2 ^ 70) ∧
      (∃ first second, unpair (pair (2 ^ 70) 0 - 1) = .ok (first, second) ∧
        0 ≤ first ∧ 0 ≤ second ∧ pair first second = pair (2 ^ 70) 0 - 1) ∧
      unpair (-1) = .error .negativeRoot := by
  have hlarge : (0 : Int) ≤ 2 ^ 70 := by decide
  have hplace : 0 ≤ pair (2 ^ 70) 0 - 1 := by decide
  exact ⟨(pair_unpair_inverse.1 _ _ hlarge le_rfl).2, (pair_unpair_inverse.1 _ _ le_rfl hlarge).2,
    pair_unpair_inverse.2.1 _ hplace, (pair_unpair_inverse.2.2.2 (-1) (by decide)).1⟩

end VoxelGrid.Diagonal
