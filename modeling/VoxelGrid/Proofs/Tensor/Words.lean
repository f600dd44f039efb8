import VoxelGrid.Proofs.Tensor.Index
import VoxelGrid.Tensor.Input

/-! Arrays of words as they are handed in. Their conversion to words changes nothing. -/

namespace VoxelGrid

namespace Tensor

variable {α β γ : Type}

theorem map_map (g : β → γ) (f : α → β) (t : Tensor α) :
    (t.map f).map g = t.map fun a => g (f a) := by
  simp [map, Function.comp_def]

theorem map_congr {f g : α → β} {t : Tensor α} (h : ∀ a ∈ t.cells, f a = g a) :
    t.map f = t.map g := by
  simp only [map, List.map_congr_left h]

theorem map_eq_self {f : α → α} (h : ∀ a, f a = a) (t : Tensor α) : t.map f = t := by
  rw [show f = id from funext h]
  simp [map]

end Tensor

namespace Scalar

theorem inInt64_toInt (w : Int64) : InInt64 w.toInt := ⟨w.le_toInt, w.toInt_lt⟩

theorem int64OfInt_eq_ok_iff {n : Int} {w : Int64} : int64OfInt n = .ok w ↔ w.toInt = n := by
  rw [int64OfInt]
  split
  · next h =>
    rw [Except.ok.injEq]
    constructor
    · rintro rfl
      exact Int64.toInt_ofInt_of_le h.1 h.2
    · rintro rfl
      exact Int64.ofInt_toInt w
  · next h =>
    simp only [reduceCtorEq, false_iff]
    rintro rfl
    exact h (inInt64_toInt w)

theorem int64OfInt_eq_error_iff {n : Int} {e : Error} :
    int64OfInt n = .error e ↔ ¬ InInt64 n ∧ e = .integerTooLarge := by
  rw [int64OfInt]
  split <;> simp [*, eq_comm]

theorem exists_word_of_inInt64 {n : Int} (h : InInt64 n) :
    ∃ w : Int64, w.toInt = n ∧ int64OfInt n = .ok w := by
  have hw : (Int64.ofInt n).toInt = n := Int64.toInt_ofInt_of_le h.1 h.2
  exact ⟨.ofInt n, hw, int64OfInt_eq_ok_iff.mpr hw⟩

end Scalar

namespace Input

def ofInt64 (t : Tensor Int64) : Input := .typed .int64 (t.map fun w => .int w.toInt)

def ofUInt64 (t : Tensor UInt64) : Input := .typed .uint64 (t.map fun w => .int w.toNat)

/-- The input is an array of signed or of unsigned words and holds these numbers. -/
inductive Words : Input → Tensor Int → Prop
  | signed (t : Tensor Int64) : Words (ofInt64 t) (t.map Int64.toInt)
  | unsigned (t : Tensor UInt64) : Words (ofUInt64 t) (t.map fun w => (w.toNat : Int))

theorem castInt64_int (w : Int64) : Scalar.castInt64 (.int w.toInt) = w := Int64.ofInt_toInt w

theorem castUInt64_signed (w : Int64) : Scalar.castUInt64 (.int w.toInt) = w.toUInt64 :=
  congrArg Int64.toUInt64 (castInt64_int w)

theorem castUInt64_int (w : UInt64) : Scalar.castUInt64 (.int w.toNat) = w := by
  change (Int64.ofInt w.toNat).toUInt64 = w
  rw [Int64.ofInt_eq_ofNat, Int64.toUInt64_ofNat', UInt64.ofNat_toNat]

theorem toInt64_ofInt64 (t : Tensor Int64) : (ofInt64 t).toInt64 = .ok t := by
  change Except.ok ((t.map fun w => .int w.toInt).map Scalar.castInt64) = _
  rw [Tensor.map_map, Tensor.map_eq_self castInt64_int]

theorem map_castUInt64_int (t : Tensor UInt64) :
    (t.map fun w => Scalar.int w.toNat).map Scalar.castUInt64 = t := by
  rw [Tensor.map_map, Tensor.map_eq_self castUInt64_int]

theorem toUInt64_ofUInt64 (t : Tensor UInt64) : (ofUInt64 t).toUInt64 = .ok t :=
  congrArg Except.ok (map_castUInt64_int t)

end Input

end VoxelGrid
