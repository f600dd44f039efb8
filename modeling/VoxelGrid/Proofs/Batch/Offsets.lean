import VoxelGrid.Proofs.Batch.Coordinates

/-! Offsets under any mask. A mask that is not negative bounds what it leaves of a number, also
where its digits have gaps and no remainder stands for the offset. What is left is its own offset,
and words are masked as the numbers are. -/

namespace VoxelGrid

/-- The number `o` is the offset of `w` under the mask: it has the digits that both share, lies
between 0 and the mask, and masking leaves it as it is. -/
structure IsOffset (w mask o : Int) : Prop where
  digits : ∀ i, o.testBit i = (w.testBit i && mask.testBit i)
  nonneg : 0 ≤ o
  le_mask : o ≤ mask
  fixed : localOffset o mask = o

theorem isOffset_localOffset (w : Int) {mask : Int} (h : 0 ≤ mask) :
    IsOffset w mask (localOffset w mask) := by
  obtain ⟨hnonneg, hle⟩ := maskBits_le_of_nonneg w h
  exact ⟨testBit_maskBits w mask, hnonneg, hle, maskBits_maskBits w mask⟩

namespace Batch

open Tensor

/-- Every word of the second array is the offset of the word in its place, and masking leaves the
second array as it is. -/
structure AreOffsets (coords offsets : Tensor Int64) (mask : Int) : Prop where
  shape : offsets.shape = coords.shape
  cells : ∀ index w, coords.get? index = some w →
    ∃ o, offsets.get? index = some o ∧ IsOffset w.toInt mask o.toInt
  fixed : (Input.ofInt64 offsets).localOffsets mask = .ok offsets

theorem localOffsets_localOffsets (coords : Tensor Int64) (mask : Int64) :
    localOffsets (localOffsets coords mask) mask = localOffsets coords mask := by
  simp only [localOffsets, map_map, Int64.and_assoc, Int64.and_self]

theorem areOffsets_localOffsets (coords : Tensor Int64) {mask : Int64} (h : 0 ≤ mask.toInt) :
    AreOffsets coords (localOffsets coords mask) mask.toInt := by
  refine ⟨rfl, ?_, ?_⟩
  · intro index w hw
    obtain ⟨o, ho, hoffset⟩ := (cellwise_localOffsets coords mask).cells index w hw
    rw [Except.ok.injEq] at hoffset
    exact ⟨o, ho, hoffset ▸ isOffset_localOffset w.toInt h⟩
  · rw [localOffsets_ofInt64, localOffsets_localOffsets]

theorem exists_areOffsets (coords : Tensor Int64) {mask : Int} (h : 0 ≤ mask)
    (hlt : mask < 2 ^ 63) : ∃ offsets, (Input.ofInt64 coords).localOffsets mask = .ok offsets ∧
      AreOffsets coords offsets mask := by
  obtain ⟨word, rfl, -⟩ := Scalar.exists_word_of_inInt64 (n := mask) ⟨by omega, hlt⟩
  exact ⟨_, localOffsets_ofInt64 coords word, areOffsets_localOffsets coords h⟩

/-- Every mask that is not negative leaves offsets, of numbers and of arrays of words. -/
theorem isOffset_of_any_mask :
    (∀ w mask : Int, 0 ≤ mask → IsOffset w mask (localOffset w mask)) ∧
      ∀ (coords : Tensor Int64) (mask : Int), 0 ≤ mask → mask < 2 ^ 63 →
        ∃ offsets, (Input.ofInt64 coords).localOffsets mask = .ok offsets ∧
          AreOffsets coords offsets mask := by
  refine ⟨?_, ?_⟩
  · intro w mask h
    exact isOffset_localOffset w h
  · intro coords mask h hlt
    exact exists_areOffsets coords h hlt

/-- A mask with gaps on a number past every machine word, and on the lowest word. -/
theorem isOffset_of_any_mask_gaps :
    localOffset (-2 ^ 70 - 1) 10 = 10 ∧ IsOffset (-2 ^ 70 - 1) 10 10 ∧
      ∃ offsets,
        (Input.ofInt64 ⟨[2], [-9223372036854775808, -4], rfl⟩).localOffsets 10 = .ok offsets ∧
        AreOffsets ⟨[2], [-9223372036854775808, -4], rfl⟩ offsets 10 := by
  have hoffset : localOffset (-2 ^ 70 - 1) 10 = 10 := by decide
  have his := isOffset_of_any_mask.1 (-2 ^ 70 - 1) 10 (by decide)
  rw [hoffset] at his
  exact ⟨hoffset, his, isOffset_of_any_mask.2 _ 10 (by decide) (by decide)⟩

end Batch

end VoxelGrid
