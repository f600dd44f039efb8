import VoxelGrid.Proofs.Batch.Coordinates
import VoxelGrid.Proofs.Layout.Negative

/-! Arrays of points under a layout with a negative exponent. No position has an address there, but
words are shifted by any count, so the points have chunks all the same. Their blocks are refused for
the exponents from which a mask is made, which are the horizontal ones. -/

namespace VoxelGrid

namespace Tensor

variable {points : Tensor Int64} {n : Nat}

/-- Every row of the points and the row of `r` in the same place hold positions that are related. -/
def RowsRelate (points r : Tensor Int64) (n : Nat) (R : Position → Position → Prop) : Prop :=
  r.shape = [n, 3] ∧ ∀ i < n, ∃ p q, points.HasRow i p ∧ r.HasRow i q ∧ R p q

theorem rowsRelate_mapColumns (h : points.shape = [n, 3]) {f : Int64 → Int64 → Int64}
    {parameters : Triple Int64} {R : Position → Position → Prop}
    (hR : ∀ p q, (∀ axis, ∃ w, w.toInt = p.get axis ∧
      (f w (parameters.get axis)).toInt = q.get axis) → R p q) :
    RowsRelate points (Batch.mapColumns f parameters points) n R := by
  refine ⟨h, fun i hi => ?_⟩
  obtain ⟨p, hp⟩ := exists_hasRow h hi
  have hshape : (Batch.mapColumns f parameters points).shape = [n, 3] := h
  obtain ⟨q, hq⟩ := exists_hasRow hshape hi
  refine ⟨p, q, hp, hq, hR p q fun axis => ?_⟩
  obtain ⟨w, hget, hw⟩ := Option.map_eq_some_iff.mp (hp axis)
  have hcell := hq axis
  rw [get?_mapColumns h hi, hget] at hcell
  exact ⟨w, hw, Option.some_inj.mp hcell⟩

end Tensor

namespace Batch

open Tensor

/-- The word's sign is all that a negative count leaves of it. -/
theorem toInt_shiftRight_of_neg (w : Int64) {count : Int64} (h : count.toInt < 0) :
    (shiftRight w count).toInt = if w.toInt < 0 then -1 else 0 := by
  have hcount : ¬ (0 ≤ count ∧ count < 64) := fun hrange => h.not_ge (Word.nonneg_iff.mp hrange.1)
  have hw : w < 0 ↔ w.toInt < 0 := Int64.lt_iff_toInt_lt
  rw [shiftRight, if_neg hcount]
  simp only [hw]
  split <;> rfl

/-- What an array keeps of a position: the chunk index on an axis whose exponent is not negative, and
the sign of the coordinate on the other axes. -/
structure ChunkRow (l : Layout) (p c : Position) : Prop where
  chunk : ∀ axis, 0 ≤ l.powers.get axis →
    chunkIndex (p.get axis) (l.powers.get axis) = .ok (c.get axis)
  sign : ∀ axis, l.powers.get axis < 0 → c.get axis = if p.get axis < 0 then -1 else 0

def BlockRow (l : Layout) (p b : Position) : Prop :=
  b = ⟨p.x % l.extents.x, p.y, p.z % l.extents.z⟩

variable {l : Layout} {points : Tensor Int64} {n : Nat}

theorem chunkPositions_rows (h : points.shape = [n, 3])
    (hwords : ∀ axis, Scalar.InInt64 (l.powers.get axis)) :
    ∃ chunks, chunkPositions points l = .ok chunks ∧ RowsRelate points chunks n (ChunkRow l) := by
  obtain ⟨powers, hpowers, hpowersInt⟩ := exists_words l.powers hwords
  refine ⟨_, chunkPositions_eq_ok h hpowers, rowsRelate_mapColumns h fun p c hrow => ?_⟩
  constructor
  · intro axis hpower
    obtain ⟨w, hw, hc⟩ := hrow axis
    rw [toInt_shiftRight w (hpowersInt axis ▸ hpower), hpowersInt, hw] at hc
    rw [chunkIndex_of_nonneg _ hpower, hc]
  · intro axis hpower
    obtain ⟨w, hw, hc⟩ := hrow axis
    rw [← hc, toInt_shiftRight_of_neg w (hpowersInt axis ▸ hpower), hw]

theorem blockPositions_rows (h : points.shape = [n, 3])
    (hx : 0 ≤ l.powers.x ∧ l.powers.x ≤ 63) (hz : 0 ≤ l.powers.z ∧ l.powers.z ≤ 63) :
    ∃ blocks, blockPositions points l = .ok blocks ∧ RowsRelate points blocks n (BlockRow l) := by
  obtain ⟨masks, hblocks, hmasks⟩ := blockPositions_eq_ok h hx hz
  refine ⟨_, hblocks, rowsRelate_mapColumns h fun p b hrow => Triple.ext_get fun axis => ?_⟩
  obtain ⟨w, hw, hb⟩ := hrow axis
  rw [← hb, hmasks, hw]
  cases axis <;> rfl

theorem blockPositions_of_neg (h : points.shape = [n, 3]) (hneg : l.powers.x < 0 ∨ l.powers.z < 0) :
    blockPositions points l = .error .negativeShift := by
  rw [blockPositions, checkPoints_of_shape h]
  rcases lt_or_ge l.powers.x 0 with hx | hx
  · rw [Layout.mask_of_neg hx]
    rfl
  · rw [Layout.mask_of_nonneg hx, Layout.mask_of_neg (hneg.resolve_left (not_lt.mpr hx))]
    rfl

theorem two_pow_not_inInt64 {power : Int} (h : 63 < power) :
    ¬ Scalar.InInt64 (2 ^ power.toNat - 1) := by
  have hle : (2 : Int) ^ 64 ≤ 2 ^ power.toNat := pow_le_pow_right₀ (by decide) (by omega)
  intro hword
  have hhigh := hword.2
  omega

theorem blockPositions_of_wide (h : points.shape = [n, 3]) (hx : 0 ≤ l.powers.x)
    (hz : 0 ≤ l.powers.z) (hwide : 63 < l.powers.x ∨ 63 < l.powers.z) :
    blockPositions points l = .error .integerTooLarge := by
  have hmasks : words ⟨2 ^ l.powers.x.toNat - 1, -1, 2 ^ l.powers.z.toNat - 1⟩ =
      .error .integerTooLarge := by
    refine Triple.traverse_of_error ?_ fun axis e he => (Scalar.int64OfInt_eq_error_iff.mp he).2
    rcases hwide with hwide | hwide
    · exact ⟨.x, Scalar.int64OfInt_eq_error_iff.mpr ⟨two_pow_not_inInt64 hwide, rfl⟩⟩
    · exact ⟨.z, Scalar.int64OfInt_eq_error_iff.mpr ⟨two_pow_not_inInt64 hwide, rfl⟩⟩
  rw [blockPositions_of_mask h (Layout.mask_of_nonneg hx) (Layout.mask_of_nonneg hz), hmasks]
  rfl

theorem blockPositions_eq_negativeShift_iff (h : points.shape = [n, 3]) :
    blockPositions points l = .error .negativeShift ↔ l.powers.x < 0 ∨ l.powers.z < 0 := by
  refine ⟨fun herror => ?_, blockPositions_of_neg h⟩
  by_contra hneg
  obtain ⟨hx, hz⟩ := not_or.mp hneg
  rw [not_lt] at hx hz
  by_cases hwide : 63 < l.powers.x ∨ 63 < l.powers.z
  · rw [blockPositions_of_wide h hx hz hwide] at herror
    cases herror
  · obtain ⟨blocks, hblocks, -⟩ := blockPositions_rows h ⟨hx, by omega⟩ ⟨hz, by omega⟩
    rw [hblocks] at herror
    cases herror

/-- A negative exponent keeps every position from being split. An array of points has chunks all the
same, and it has blocks unless a horizontal exponent is at fault or past the width of a word. -/
theorem positions_of_negativePower (h : points.shape = [n, 3])
    (hwords : ∀ axis, Scalar.InInt64 (l.powers.get axis))
    (hneg : ∃ axis, l.powers.get axis < 0) :
    (∀ p, l.split p = .error .negativeShift) ∧
      (∃ chunks, (Input.ofInt64 points).chunkPositions l = .ok chunks ∧
        RowsRelate points chunks n (ChunkRow l)) ∧
      ((Input.ofInt64 points).blockPositions l = .error .negativeShift ↔
        l.powers.x < 0 ∨ l.powers.z < 0) ∧
      (0 ≤ l.powers.x → 0 ≤ l.powers.z → 63 < l.powers.x ∨ 63 < l.powers.z →
        (Input.ofInt64 points).blockPositions l = .error .integerTooLarge) ∧
      ((0 ≤ l.powers.x ∧ l.powers.x ≤ 63) → (0 ≤ l.powers.z ∧ l.powers.z ≤ 63) →
        ∃ blocks, (Input.ofInt64 points).blockPositions l = .ok blocks ∧
          RowsRelate points blocks n (BlockRow l)) := by
  have hinput : (Input.ofInt64 points).toInt64 = .ok points := Input.toInt64_ofInt64 points
  rw [chunkPositions_of_toInt64 hinput, blockPositions_of_toInt64 hinput]
  refine ⟨Layout.split_of_not_nonNegative (Layout.not_nonNegative_iff.mpr hneg),
    chunkPositions_rows h hwords, blockPositions_eq_negativeShift_iff h, ?_, ?_⟩
  · exact blockPositions_of_wide h
  · exact blockPositions_rows h

/-- A negative exponent of the vertical axis alone, and one of a horizontal axis. -/
theorem positions_of_negativePower_height :
    let points : Tensor Int64 := ⟨[2, 3], [1, 2, -3, -33, -70, 12], rfl⟩
    (∃ axis, (⟨5, -1, 5⟩ : Triple Int).get axis < 0) ∧
      (∀ p, (⟨⟨5, -1, 5⟩⟩ : Layout).split p = .error .negativeShift) ∧
      (∃ chunks, (Input.ofInt64 points).chunkPositions ⟨⟨5, -1, 5⟩⟩ = .ok chunks ∧
        RowsRelate points chunks 2 (ChunkRow ⟨⟨5, -1, 5⟩⟩)) ∧
      (∃ blocks, (Input.ofInt64 points).blockPositions ⟨⟨5, -1, 5⟩⟩ = .ok blocks ∧
        RowsRelate points blocks 2 (BlockRow ⟨⟨5, -1, 5⟩⟩)) ∧
      (Input.ofInt64 points).blockPositions ⟨⟨5, 6, -1⟩⟩ = .error .negativeShift := by
  intro points
  have hshape : points.shape = [2, 3] := rfl
  have hlow : ∀ axis, Scalar.InInt64 ((⟨5, -1, 5⟩ : Triple Int).get axis) := by
    rintro (_ | _ | _) <;> decide
  have hfar : ∀ axis, Scalar.InInt64 ((⟨5, 6, -1⟩ : Triple Int).get axis) := by
    rintro (_ | _ | _) <;> decide
  have hheight : ∃ axis, (⟨5, -1, 5⟩ : Triple Int).get axis < 0 := ⟨.y, by decide⟩
  obtain ⟨hsplit, hchunks, -, -, hblocks⟩ :=
    positions_of_negativePower (l := ⟨⟨5, -1, 5⟩⟩) hshape hlow hheight
  obtain ⟨-, -, hrefused, -⟩ :=
    positions_of_negativePower (l := ⟨⟨5, 6, -1⟩⟩) hshape hfar ⟨.z, by decide⟩
  exact ⟨hheight, hsplit, hchunks, hblocks (by decide) (by decide), hrefused.mpr (.inr (by decide))⟩

/-- Under the layout every array with at least one point is refused both chunks and blocks. -/
def RefusesPoints (l : Layout) : Prop :=
  ∀ (points : Tensor Int64) (n : Nat), points.shape = [n, 3] → 1 ≤ n →
    (∃ e, (Input.ofInt64 points).chunkPositions l = .error e) ∧
      ∃ e, (Input.ofInt64 points).blockPositions l = .error e

/-- One point is given both where no position can be split. -/
theorem not_refusesPoints_height :
    (∀ p, (⟨⟨5, -1, 5⟩⟩ : Layout).split p = .error .negativeShift) ∧
      (Input.ofInt64 ⟨[1, 3], [1, 2, -3], rfl⟩).chunkPositions ⟨⟨5, -1, 5⟩⟩ =
        .ok ⟨[1, 3], [0, 0, -1], rfl⟩ ∧
      (Input.ofInt64 ⟨[1, 3], [1, 2, -3], rfl⟩).blockPositions ⟨⟨5, -1, 5⟩⟩ =
        .ok ⟨[1, 3], [1, 2, 29], rfl⟩ ∧
      ¬ RefusesPoints ⟨⟨5, -1, 5⟩⟩ := by
  have hneg : ¬ (⟨⟨5, -1, 5⟩⟩ : Layout).NonNegative := by
    rw [Layout.not_nonNegative_iff]
    exact ⟨.y, by decide⟩
  have hchunks : (Input.ofInt64 ⟨[1, 3], [1, 2, -3], rfl⟩).chunkPositions ⟨⟨5, -1, 5⟩⟩ =
      .ok ⟨[1, 3], [0, 0, -1], rfl⟩ := by rfl
  refine ⟨Layout.split_of_not_nonNegative hneg, hchunks, by rfl, fun h => ?_⟩
  obtain ⟨⟨e, he⟩, -⟩ := h ⟨[1, 3], [1, 2, -3], rfl⟩ 1 rfl le_rfl
  rw [hchunks] at he
  cases he

end Batch

end VoxelGrid
