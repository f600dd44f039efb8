import VoxelGrid.Proofs.Key.Diagonal

/-! The order of pairs by their places. A pair on an earlier diagonal comes first, and on one diagonal
the pair with the smaller second component does. So the diagonals up to any one of them hold a range
of numbers from zero on, without gaps. -/

namespace VoxelGrid.Diagonal

/-- The last place of a diagonal still comes before the first place of the next. -/
theorem pair_lt_pair_of_add_lt {a b c d : Nat} (h : a + b < c + d) : pair a b < pair c d := by
  have hnext := triangle_mono h
  rw [Nat.succ_eq_add_one, triangle_succ] at hnext
  rw [pair_natCast, pair_natCast]
  omega

theorem pair_lt_pair_iff {a b c d : Int} (ha : 0 ≤ a) (hb : 0 ≤ b) (hc : 0 ≤ c) (hd : 0 ≤ d) :
    pair a b < pair c d ↔ a + b < c + d ∨ a + b = c + d ∧ b < d := by
  lift a to Nat using ha
  lift b to Nat using hb
  lift c to Nat using hc
  lift d to Nat using hd
  rcases Nat.lt_trichotomy (a + b) (c + d) with h | h | h
  · have hlt := pair_lt_pair_of_add_lt h
    omega
  · -- both pairs lie on one diagonal, whose start cancels
    rw [pair_natCast, pair_natCast, h]
    omega
  · have hlt := pair_lt_pair_of_add_lt h
    omega

theorem pair_lt_triangle_succ_iff {first second s : Nat} :
    pair first second < triangle (s + 1) ↔ first + second ≤ s := by
  have hstart := triangle_le_iff (c := triangle (first + second) + second) (j := s + 1)
  rw [index_pair] at hstart
  rw [pair_natCast]
  omega

theorem triangle_succ_natCast (s : Nat) :
    ((triangle (s + 1) : Nat) : Int) = ((s : Int) + 1) * (s + 2) / 2 := by
  rw [triangle]
  push_cast
  ring_nf

theorem exists_pair_eq_iff {s key : Int} (hs : 0 ≤ s) :
    (∃ first second, 0 ≤ first ∧ 0 ≤ second ∧ first + second ≤ s ∧ pair first second = key) ↔
      0 ≤ key ∧ key < (s + 1) * (s + 2) / 2 := by
  lift s to Nat using hs
  rw [← triangle_succ_natCast]
  constructor
  · rintro ⟨first, second, h1, h2, hsum, rfl⟩
    refine ⟨pair_nonneg h1 h2, ?_⟩
    lift first to Nat using h1
    lift second to Nat using h2
    exact pair_lt_triangle_succ_iff.mpr (by omega)
  · rintro ⟨hkey, hlt⟩
    obtain ⟨first, second, h1, h2, hunpair⟩ := exists_unpair hkey
    obtain ⟨-, -, rfl⟩ := unpair_eq_ok_iff.mp hunpair
    refine ⟨first, second, h1, h2, ?_, rfl⟩
    lift first to Nat using h1
    lift second to Nat using h2
    have hsum := pair_lt_triangle_succ_iff.mp hlt
    omega

/-- Places are ordered by diagonal and then by second component, and the places of the diagonals up to
one of them are all numbers below the start of the next. -/
theorem pair_orders_diagonals :
    (∀ a b c d : Int, 0 ≤ a → 0 ≤ b → 0 ≤ c → 0 ≤ d →
      (pair a b < pair c d ↔ a + b < c + d ∨ a + b = c + d ∧ b < d)) ∧
    ∀ s : Int, 0 ≤ s → ∀ key : Int,
      (∃ k1 k2, 0 ≤ k1 ∧ 0 ≤ k2 ∧ k1 + k2 ≤ s ∧ pair k1 k2 = key) ↔
        0 ≤ key ∧ key ≤ (s + 1) * (s + 2) / 2 - 1 := by
  refine ⟨?_, ?_⟩
  · intro a b c d ha hb hc hd
    exact pair_lt_pair_iff ha hb hc hd
  · intro s hs key
    rw [exists_pair_eq_iff hs, Int.le_sub_one_iff]

/-- The last pair of a diagonal past every machine word against the first pair of the next one, two
pairs on one diagonal, and the last place up to the third diagonal. -/
theorem pair_orders_diagonals_large :
    pair 0 (2 ^ 70) < pair (2 ^ 70 + 1) 0 ∧ ¬ pair 3 4 < pair 4 3 ∧
      (∃ k1 k2, 0 ≤ k1 ∧ 0 ≤ k2 ∧ k1 + k2 ≤ 2 ∧ pair k1 k2 = 5) ∧
      ¬ ∃ k1 k2, 0 ≤ k1 ∧ 0 ≤ k2 ∧ k1 + k2 ≤ 2 ∧ pair k1 k2 = 6 := by
  obtain ⟨horder, hrange⟩ := pair_orders_diagonals
  refine ⟨?_, ?_, ?_, ?_⟩
  · rw [horder _ _ _ _ (by decide) (by decide) (by decide) (by decide)]
    decide
  · rw [horder _ _ _ _ (by decide) (by decide) (by decide) (by decide)]
    decide
  · rw [hrange 2 (by decide)]
    decide
  · rw [hrange 2 (by decide)]
    decide

end VoxelGrid.Diagonal
