import VoxelGrid.Proofs.Key.Column
import VoxelGrid.Proofs.Key.Domain

/-! How far a world reaches before a column of it has no key. That is at least `2 ^ 30` chunks in each
horizontal direction, hence the more blocks the wider a chunk is. -/

namespace VoxelGrid

theorem ediv_two_pow_between_iff (w : Int) (n e : Nat) :
    -2 ^ n ≤ w / 2 ^ e ∧ w / 2 ^ e < 2 ^ n ↔ -2 ^ (n + e) ≤ w ∧ w < 2 ^ (n + e) := by
  have hpos : (0 : Int) < 2 ^ e := Int.pow_pos (by decide)
  rw [Int.le_ediv_iff_mul_le hpos, Int.ediv_lt_iff_lt_mul hpos, pow_add, neg_mul]

theorem ZigZag.fold_ediv_lt {w : Int} {e : Nat} (hlow : -2 ^ (30 + e) ≤ w)
    (hhigh : w < 2 ^ (30 + e)) : fold (w / 2 ^ e) < 2 ^ 31 := by
  have hchunk := (ediv_two_pow_between_iff w 30 e).mpr ⟨hlow, hhigh⟩
  exact fold_lt_two_mul_iff.mpr hchunk

theorem two_pow_word_le {power : Int} (h : 1 ≤ power) :
    (2 : Int) ^ 31 ≤ 2 ^ (30 + power.toNat) :=
  pow_le_pow_right₀ (by decide) (by omega)

namespace Layout

variable {l : Layout}

theorem exists_columnKey_of_between (hx : 0 ≤ l.powers.x) (hz : 0 ≤ l.powers.z) {x z : Int}
    (hxlow : -2 ^ (30 + l.powers.x.toNat) ≤ x) (hxhigh : x < 2 ^ (30 + l.powers.x.toNat))
    (hzlow : -2 ^ (30 + l.powers.z.toNat) ≤ z) (hzhigh : z < 2 ^ (30 + l.powers.z.toNat)) :
    ∃ key, l.columnKey x z = .ok key := by
  rw [columnKey_of_nonneg hx hz]
  exact Key.exists_encode_of_lt (ZigZag.fold_ediv_lt hxlow hxhigh) (ZigZag.fold_ediv_lt hzlow hzhigh)

/-- Columns within `2 ^ 30` chunks of the origin have keys, so with chunks of two blocks or more every
column of a world of 32-bit coordinates has one. -/
theorem columnKey_capacity (hx : 0 ≤ l.powers.x) (hz : 0 ≤ l.powers.z) :
    (∀ x z : Int,
      -2 ^ (30 + l.powers.x.toNat) ≤ x → x < 2 ^ (30 + l.powers.x.toNat) →
      -2 ^ (30 + l.powers.z.toNat) ≤ z → z < 2 ^ (30 + l.powers.z.toNat) →
        ∃ key, l.columnKey x z = .ok key) ∧
    (1 ≤ l.powers.x → 1 ≤ l.powers.z → ∀ x z : Int,
      -2 ^ 31 ≤ x → x < 2 ^ 31 → -2 ^ 31 ≤ z → z < 2 ^ 31 → ∃ key, l.columnKey x z = .ok key) := by
  refine ⟨?_, ?_⟩
  · intro x z hxlow hxhigh hzlow hzhigh
    exact exists_columnKey_of_between hx hz hxlow hxhigh hzlow hzhigh
  · intro hwideX hwideZ x z hxlow hxhigh hzlow hzhigh
    have hwordX := two_pow_word_le hwideX
    have hwordZ := two_pow_word_le hwideZ
    exact exists_columnKey_of_between hx hz (by omega) (by omega) (by omega) (by omega)

/-- The lowest corner of the range under chunks of unlike widths and a negative vertical exponent, and
that of the 32-bit coordinates under the narrowest chunks that reach it. -/
theorem columnKey_capacity_lowest :
    (∃ key, (⟨⟨0, -1, 40⟩⟩ : Layout).columnKey (-2 ^ 30) (-2 ^ 70) = .ok key) ∧
      (∃ key, (⟨⟨1, 0, 1⟩⟩ : Layout).columnKey (-2 ^ 31) (-2 ^ 31) = .ok key) ∧
      ¬ ∃ key, (⟨⟨0, 0, 0⟩⟩ : Layout).columnKey (-2 ^ 31) (-2 ^ 31) = .ok key := by
  refine ⟨?_, ?_, ?_⟩
  · exact (columnKey_capacity (by decide) (by decide)).1 _ _ (by decide) (by decide) (by decide)
      (by decide)
  · exact (columnKey_capacity (by decide) (by decide)).2 (by decide) (by decide) _ _ (by decide)
      (by decide) (by decide) (by decide)
  · rintro ⟨key, hkey⟩
    cases hkey

end Layout

end VoxelGrid
