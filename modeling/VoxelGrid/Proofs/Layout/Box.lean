import Mathlib.Data.Finset.Prod
import VoxelGrid.Proofs.Layout.Split

/-! Chunks as boxes of blocks. On each axis a chunk runs from its first block to its last, and the next
chunk starts right after that, so a chunk holds as many blocks as the product of its extents. -/

namespace VoxelGrid

theorem minBlock_of_nonneg (chunk : Int) {power : Int} (h : 0 ≤ power) :
    minBlock chunk power = .ok (chunk * 2 ^ power.toNat) := by
  rw [minBlock, shiftLeft_of_nonneg _ h]
  rfl

theorem maxBlock_of_nonneg (chunk : Int) {power : Int} (h : 0 ≤ power) :
    maxBlock chunk power = .ok ((chunk + 1) * 2 ^ power.toNat - 1) := by
  rw [maxBlock, shiftLeft_of_nonneg _ h]
  rfl

/-- The coordinate lies between the first and the last block of a chunk on one axis. -/
def InChunk (power chunk w : Int) : Prop :=
  ∃ low high, minBlock chunk power = .ok low ∧ maxBlock chunk power = .ok high ∧ low ≤ w ∧ w ≤ high

theorem inChunk_iff {power : Int} (h : 0 ≤ power) (chunk w : Int) : InChunk power chunk w ↔
    chunk * 2 ^ power.toNat ≤ w ∧ w ≤ (chunk + 1) * 2 ^ power.toNat - 1 := by
  simp only [InChunk, minBlock_of_nonneg _ h, maxBlock_of_nonneg _ h, Except.ok.injEq]
  constructor
  · rintro ⟨_, _, rfl, rfl, hw⟩
    exact hw
  · intro hw
    exact ⟨_, _, rfl, rfl, hw⟩

theorem chunkIndex_eq_ok_iff {power : Int} (h : 0 ≤ power) (chunk w : Int) :
    chunkIndex w power = .ok chunk ↔ InChunk power chunk w := by
  have hpos : (0 : Int) < 2 ^ power.toNat := Int.pow_pos (by decide)
  rw [chunkIndex_of_nonneg w h, Except.ok.injEq, Int.ediv_eq_iff_of_pos hpos, inChunk_iff h,
    Int.le_sub_one_iff, add_one_mul]

theorem chunkPosition_eq_ok_iff {l : Layout} (h : l.NonNegative) {p c : Position} :
    chunkPosition p l.powers = .ok c ↔
      ∀ axis, InChunk (l.powers.get axis) (c.get axis) (p.get axis) := by
  rw [chunkPosition, Triple.traverse_eq_ok_iff]
  exact forall_congr' fun axis => chunkIndex_eq_ok_iff (h axis) _ _

/-- The position that lies a number of steps past another on each axis. -/
def stepsFrom (low : Position) : Nat × Nat × Nat ↪ Position where
  toFun steps := ⟨low.x + steps.1, low.y + steps.2.1, low.z + steps.2.2⟩
  inj' := by
    rintro ⟨i, j, k⟩ ⟨i', j', k'⟩ h
    simp only [Triple.mk.injEq] at h
    simp only [Prod.mk.injEq]
    omega

/-- The positions from one corner on, as many on each axis as the size says. -/
def box (low : Position) (size : Triple Int) : Finset Position :=
  (Finset.range size.x.toNat ×ˢ Finset.range size.y.toNat ×ˢ Finset.range size.z.toNat).map
    (stepsFrom low)

theorem exists_step_iff (low size w : Int) :
    (∃ i < size.toNat, low + i = w) ↔ low ≤ w ∧ w < low + size := by
  constructor
  · rintro ⟨i, hi, rfl⟩
    omega
  · rintro ⟨hlow, hhigh⟩
    exact ⟨(w - low).toNat, by omega, by omega⟩

theorem mem_box {low p : Position} {size : Triple Int} : p ∈ box low size ↔
    ∀ axis, low.get axis ≤ p.get axis ∧ p.get axis < low.get axis + size.get axis := by
  simp only [← exists_step_iff, box, Finset.mem_map, Finset.mem_product, Finset.mem_range]
  constructor
  · rintro ⟨⟨i, j, k⟩, ⟨hi, hj, hk⟩, rfl⟩ (_ | _ | _)
    · exact ⟨i, hi, rfl⟩
    · exact ⟨j, hj, rfl⟩
    · exact ⟨k, hk, rfl⟩
  · intro h
    obtain ⟨i, hi, hx⟩ := h .x
    obtain ⟨j, hj, hy⟩ := h .y
    obtain ⟨k, hk, hz⟩ := h .z
    refine ⟨(i, j, k), ⟨hi, hj, hk⟩, Triple.ext_get ?_⟩
    rintro (_ | _ | _)
    · exact hx
    · exact hy
    · exact hz

theorem card_box (low : Position) {size : Triple Int} (h : ∀ axis, 0 ≤ size.get axis) :
    ((box low size).card : Int) = size.x * size.y * size.z := by
  have hx : 0 ≤ size.x := h .x
  have hy : 0 ≤ size.y := h .y
  have hz : 0 ≤ size.z := h .z
  simp only [box, Finset.card_map, Finset.card_product, Finset.card_range]
  push_cast
  rw [Int.toNat_of_nonneg hx, Int.toNat_of_nonneg hy, Int.toNat_of_nonneg hz, mul_assoc]

namespace Layout

variable {l : Layout}

/-- The first block of a chunk on every axis. -/
def firstBlock (l : Layout) (c : Position) : Position :=
  ⟨c.x * l.extents.x, c.y * l.extents.y, c.z * l.extents.z⟩

theorem volume_of_nonNegative (h : l.NonNegative) :
    l.volume = .ok (l.extents.x * l.extents.y * l.extents.z) := by
  rw [volume, sizes_of_nonNegative h]
  rfl

theorem mem_box_firstBlock_iff (h : l.NonNegative) {p c : Position} :
    p ∈ box (l.firstBlock c) l.extents ↔ chunkPosition p l.powers = .ok c := by
  rw [mem_box, chunkPosition_eq_ok_iff h]
  refine forall_congr' fun axis => ?_
  have hfirst : (l.firstBlock c).get axis = c.get axis * l.extents.get axis := by
    cases axis <;> rfl
  rw [inChunk_iff (h axis), hfirst, get_extents, Int.le_sub_one_iff, add_one_mul]

/-- A chunk has the positions between its first and its last block on every axis and no other, and
their number is its volume. The chunk after it starts at the block after its last. -/
theorem chunk_is_box (h : l.NonNegative) :
    (∀ c p : Position, chunkPosition p l.powers = .ok c ↔ ∀ axis, ∃ low high,
      minBlock (c.get axis) (l.powers.get axis) = .ok low ∧
        maxBlock (c.get axis) (l.powers.get axis) = .ok high ∧
          low ≤ p.get axis ∧ p.get axis ≤ high) ∧
    (∀ c power : Int, 0 ≤ power → ∃ high, maxBlock c power = .ok high ∧
      minBlock (c + 1) power = .ok (high + 1)) ∧
    ∀ c : Position, ∃ blocks : Finset Position,
      (∀ p, p ∈ blocks ↔ chunkPosition p l.powers = .ok c) ∧
        l.volume = .ok (blocks.card : Int) := by
  refine ⟨?_, ?_, ?_⟩
  · intro c p
    exact chunkPosition_eq_ok_iff h
  · intro c power hpower
    refine ⟨_, maxBlock_of_nonneg c hpower, ?_⟩
    rw [minBlock_of_nonneg _ hpower, sub_add_cancel]
  · intro c
    refine ⟨box (l.firstBlock c) l.extents, fun p => mem_box_firstBlock_iff h, ?_⟩
    rw [volume_of_nonNegative h, card_box _ fun axis => (l.extents_pos axis).le]

/-- A chunk below zero under a layout of flat chunks, whose 1024 blocks are on one level. -/
theorem chunk_is_box_flat :
    (⟨⟨5, 0, 5⟩⟩ : Layout).NonNegative ∧
      chunkPosition ⟨-33, -7, 31⟩ ⟨5, 0, 5⟩ = .ok ⟨-2, -7, 0⟩ ∧
      maxBlock (-2) 5 = .ok (-33) ∧ minBlock (-1) 5 = .ok (-32) ∧
      ∃ blocks : Finset Position, blocks.card = 1024 ∧
        ∀ p, p ∈ blocks ↔ chunkPosition p ⟨5, 0, 5⟩ = .ok ⟨-2, -7, 0⟩ := by
  have h : (⟨⟨5, 0, 5⟩⟩ : Layout).NonNegative := by rintro (_ | _ | _) <;> decide
  obtain ⟨hbetween, hnext, hcount⟩ := chunk_is_box h
  have hcorner : chunkPosition ⟨-33, -7, 31⟩ ⟨5, 0, 5⟩ = .ok ⟨-2, -7, 0⟩ := by
    rw [hbetween]
    rintro (_ | _ | _)
    · exact ⟨-64, -33, rfl, rfl, by decide, by decide⟩
    · exact ⟨-7, -7, rfl, rfl, by decide, by decide⟩
    · exact ⟨0, 31, rfl, rfl, by decide, by decide⟩
  obtain ⟨blocks, hblocks, hvolume⟩ := hcount ⟨-2, -7, 0⟩
  have hcard : (1024 : Int) = blocks.card := Except.ok.inj hvolume
  obtain ⟨high, hlast, hfirst⟩ := hnext (-2) 5 (by decide)
  cases hlast
  exact ⟨h, hcorner, rfl, hfirst, blocks, by omega, hblocks⟩

end Layout

end VoxelGrid
