import VoxelGrid.Proofs.Batch.Word
import VoxelGrid.Proofs.Tensor.Words

/-! The zig-zag order of words. Folding takes each signed word to the unsigned word of its place and
unfolding takes it back, so that both are bijections between the words, and arrays keep every cell. -/

namespace VoxelGrid

namespace Batch

theorem unfoldWord_foldWord (x : Int64) : unfoldWord (foldWord x) = x := by
  rw [← Int64.toInt_inj, toInt_unfoldWord, toNat_foldWord, ZigZag.unfold_fold]

theorem foldWord_unfoldWord (y : UInt64) : foldWord (unfoldWord y) = y := by
  rw [← UInt64.toNat_inj, ← Int.natCast_inj, toNat_foldWord, toInt_unfoldWord,
    ZigZag.fold_unfold (Int.natCast_nonneg _)]

theorem unfoldAll_foldAll (t : Tensor Int64) : unfoldAll (foldAll t) = t := by
  rw [unfoldAll, foldAll, Tensor.map_map]
  exact Tensor.map_eq_self unfoldWord_foldWord t

theorem foldAll_unfoldAll (t : Tensor UInt64) : foldAll (unfoldAll t) = t := by
  rw [unfoldAll, foldAll, Tensor.map_map]
  exact Tensor.map_eq_self foldWord_unfoldWord t

theorem map_toNat_foldAll (t : Tensor Int64) :
    ((foldAll t).map fun y => (y.toNat : Int)) = t.map fun x => ZigZag.fold x.toInt := by
  rw [foldAll, Tensor.map_map]
  exact Tensor.map_congr fun x _ => toNat_foldWord x

theorem map_toInt_unfoldAll (t : Tensor UInt64) :
    (unfoldAll t).map Int64.toInt = t.map fun y => ZigZag.unfold y.toNat := by
  rw [unfoldAll, Tensor.map_map]
  exact Tensor.map_congr fun y _ => toInt_unfoldWord y

end Batch

namespace Input

theorem foldAll_ofInt64 (t : Tensor Int64) : (ofInt64 t).foldAll = .ok (Batch.foldAll t) := by
  rw [foldAll, toInt64_ofInt64]
  rfl

theorem unfoldAll_ofUInt64 (t : Tensor UInt64) :
    (ofUInt64 t).unfoldAll = .ok (Batch.unfoldAll t) := by
  rw [unfoldAll, toUInt64_ofUInt64]
  rfl

/-- Folding an array of signed words gives the places of its numbers and unfolding an array of
unsigned words gives the numbers at its places, without a number lost to the width of a word. Each of
the two takes the other's answer back to the array it came from. -/
theorem foldAll_unfoldAll_inverse :
    (∀ t : Tensor Int64, ∃ r, (ofInt64 t).foldAll = .ok r ∧
      (r.map fun y => (y.toNat : Int)) = (t.map fun x => ZigZag.fold x.toInt) ∧
        (ofUInt64 r).unfoldAll = .ok t) ∧
    ∀ t : Tensor UInt64, ∃ r, (ofUInt64 t).unfoldAll = .ok r ∧
      r.map Int64.toInt = (t.map fun y => ZigZag.unfold y.toNat) ∧ (ofInt64 r).foldAll = .ok t := by
  refine ⟨fun t => ?_, fun t => ?_⟩
  · refine ⟨_, foldAll_ofInt64 t, Batch.map_toNat_foldAll t, ?_⟩
    rw [unfoldAll_ofUInt64, Batch.unfoldAll_foldAll]
  · refine ⟨_, unfoldAll_ofUInt64 t, Batch.map_toInt_unfoldAll t, ?_⟩
    rw [foldAll_ofInt64, Batch.foldAll_unfoldAll]

end Input

end VoxelGrid
