import Mathlib.Algebra.Order.Group.Abs
import VoxelGrid.Proofs.Error
import VoxelGrid.Proofs.Layout.Split

/-! Regions of chunks. The chunks between the corners of a square are exactly those with a block in
it: a floor never leaves a gap, so a chunk between two others holds some block between theirs. -/

namespace VoxelGrid

theorem ediv_between_iff {low high size c : Int} (hsize : 0 < size) (h : low ≤ high) :
    low / size ≤ c ∧ c ≤ high / size ↔ ∃ w, low ≤ w ∧ w ≤ high ∧ w / size = c := by
  constructor
  · rintro ⟨hlow, hhigh⟩
    have hfirst : c * size ≤ high := (Int.le_ediv_iff_mul_le hsize).mp hhigh
    have hnext : low < (c + 1) * size :=
      (Int.ediv_lt_iff_lt_mul hsize).mp (Int.lt_add_one_iff.mpr hlow)
    -- the first block of the chunk, or the first one of the square if that comes later
    refine ⟨max low (c * size), le_max_left .., max_le h hfirst, ?_⟩
    have hle : c ≤ max low (c * size) / size :=
      (Int.le_ediv_iff_mul_le hsize).mpr (le_max_right ..)
    have hlt : max low (c * size) / size < c + 1 :=
      (Int.ediv_lt_iff_lt_mul hsize).mpr
        (max_lt hnext (Int.mul_lt_mul_of_pos_right (Int.lt_succ c) hsize))
    omega
  · rintro ⟨w, hlow, hhigh, rfl⟩
    exact ⟨Int.ediv_le_ediv hsize hlow, Int.ediv_le_ediv hsize hhigh⟩

theorem chunk_between_iff {power extent : Int} (hpower : 0 ≤ power) (hextent : 0 ≤ extent)
    (w c : Int) :
    (w - extent) / 2 ^ power.toNat ≤ c ∧ c ≤ (w + extent) / 2 ^ power.toNat ↔
      ∃ b, |b - w| ≤ extent ∧ chunkIndex b power = .ok c := by
  rw [ediv_between_iff (Int.pow_pos (by decide)) (by omega)]
  simp only [chunkIndex_of_nonneg _ hpower, Except.ok.injEq, abs_le]
  constructor
  · rintro ⟨b, hlow, hhigh, hb⟩
    exact ⟨b, ⟨by omega, by omega⟩, hb⟩
  · rintro ⟨b, ⟨hlow, hhigh⟩, hb⟩
    exact ⟨b, by omega, by omega, hb⟩

namespace Layout

/-- The region has the chunks that meet the square of a horizontal distance, and no other, at the
height of the position. -/
structure CoversSquare (l : Layout) (p : Position) (extent : Int) (r : Region) : Prop where
  chunks : ∀ cx cz, (r.low.x ≤ cx ∧ cx ≤ r.high.x) ∧ (r.low.z ≤ cz ∧ cz ≤ r.high.z) ↔
    ∃ wx wz, |wx - p.x| ≤ extent ∧ |wz - p.z| ≤ extent ∧
      chunkIndex wx l.powers.x = .ok cx ∧ chunkIndex wz l.powers.z = .ok cz
  low_y : chunkIndex p.y l.powers.y = .ok r.low.y
  high_y : chunkIndex p.y l.powers.y = .ok r.high.y

variable {l : Layout}

theorem regionAround_of_nonNegative (h : l.NonNegative) (p : Position) {extent : Int}
    (hextent : 0 ≤ extent) : l.regionAround p extent =
      .ok ⟨⟨(p.x - extent) / l.extents.x, p.y / l.extents.y, (p.z - extent) / l.extents.z⟩,
        ⟨(p.x + extent) / l.extents.x, p.y / l.extents.y, (p.z + extent) / l.extents.z⟩⟩ := by
  rw [regionAround, if_neg (by omega), chunkPosition_of_nonNegative h,
    chunkPosition_of_nonNegative h]
  rfl

theorem coversSquare_of_nonNegative (h : l.NonNegative) (p : Position) {extent : Int}
    (hextent : 0 ≤ extent) : CoversSquare l p extent
      ⟨⟨(p.x - extent) / l.extents.x, p.y / l.extents.y, (p.z - extent) / l.extents.z⟩,
        ⟨(p.x + extent) / l.extents.x, p.y / l.extents.y, (p.z + extent) / l.extents.z⟩⟩ := by
  refine ⟨fun cx cz => ?_, chunkIndex_of_nonneg _ (h .y), chunkIndex_of_nonneg _ (h .y)⟩
  have hx := chunk_between_iff (h .x) hextent p.x cx
  have hz := chunk_between_iff (h .z) hextent p.z cz
  constructor
  · rintro ⟨hcx, hcz⟩
    obtain ⟨wx, hwx, hcx⟩ := hx.mp hcx
    obtain ⟨wz, hwz, hcz⟩ := hz.mp hcz
    exact ⟨wx, wz, hwx, hwz, hcx, hcz⟩
  · rintro ⟨wx, wz, hwx, hwz, hcx, hcz⟩
    exact ⟨hx.mpr ⟨wx, hwx, hcx⟩, hz.mpr ⟨wz, hwz, hcz⟩⟩

theorem regionAround_of_neg (l : Layout) (p : Position) {extent : Int} (h : extent < 0) :
    l.regionAround p extent = .error (Error.negativeExtent extent).raised := by
  rw [regionAround, if_pos h]
  rfl

/-- A negative distance is refused under any layout, and named if it can be written. -/
theorem regionAround_covers (l : Layout) (p : Position) (extent : Int) :
    (l.NonNegative → 0 ≤ extent →
        ∃ r, l.regionAround p extent = .ok r ∧ CoversSquare l p extent r) ∧
      (extent < 0 → l.regionAround p extent = .error (Error.negativeExtent extent).raised ∧
        (HasNumeral extent → l.regionAround p extent = .error (.negativeExtent extent))) := by
  refine ⟨fun h hextent => ?_, fun hextent => ⟨regionAround_of_neg l p hextent, fun hnumeral => ?_⟩⟩
  · exact ⟨_, regionAround_of_nonNegative h p hextent, coversSquare_of_nonNegative h p hextent⟩
  · have hshown : (Error.negativeExtent extent).integers = [extent] := rfl
    rw [regionAround_of_neg l p hextent, Error.raised_of_hasNumeral hshown hnumeral]

/-- A square smaller than a chunk that lies across the origin. -/
theorem regionAround_covers_origin :
    standard.NonNegative ∧
      standard.regionAround ⟨0, -1, 31⟩ 1 = .ok ⟨⟨-1, -1, 0⟩, ⟨0, -1, 1⟩⟩ ∧
        (∃ wx wz, |wx - 0| ≤ 1 ∧ |wz - 31| ≤ 1 ∧
          chunkIndex wx 5 = .ok (-1) ∧ chunkIndex wz 5 = .ok 1) ∧
            standard.regionAround ⟨0, -1, 31⟩ (-1) = .error (.negativeExtent (-1)) := by
  have h : standard.NonNegative := by rintro (_ | _ | _) <;> decide
  have hregion : standard.regionAround ⟨0, -1, 31⟩ 1 = .ok ⟨⟨-1, -1, 0⟩, ⟨0, -1, 1⟩⟩ := rfl
  obtain ⟨r, hr, hcovers⟩ := (regionAround_covers standard ⟨0, -1, 31⟩ 1).1 h (by decide)
  obtain rfl := Except.ok.inj (hregion.symm.trans hr)
  have hnumeral : HasNumeral (-1) := hasNumeral_of_lt 1 (by decide) (by decide)
  exact ⟨h, hregion, (hcovers.chunks (-1) 1).mp (by decide),
    ((regionAround_covers standard ⟨0, -1, 31⟩ (-1)).2 (by decide)).2 hnumeral⟩

end Layout

end VoxelGrid
