import VoxelGrid.Proofs.Error
import VoxelGrid.Proofs.Layout.Basic
import VoxelGrid.Proofs.PowerOfTwo

/-! Layouts made from the sizes of their chunks. A layout comes out exactly when every size is a power
of two, and it is the one layout that has those sizes. A size that is refused is named as long as it
can be written. -/

namespace VoxelGrid.Layout

open PowerOfTwo

/-- The first size, in the order of the axes, that is not a power of two is the one for `axis`. -/
structure FirstOffending (s : Triple Int) (axis : Axis) : Prop where
  offends : ¬ IsPower (s.get axis)
  earlier : ∀ earlier, earlier.Before axis → IsPower (s.get earlier)

variable {s : Triple Int}

theorem ofSizes_eq_ok_iff {l : Layout} : ofSizes s = .ok l ↔ l.NonNegative ∧ s = l.extents := by
  rw [ofSizes, map_mk_eq_ok_iff, Triple.traverse_eq_ok_iff]
  constructor
  · intro h
    have hsize (axis : Axis) := exponentOfSize_eq_ok_iff.mp (h axis)
    refine ⟨fun axis => (hsize axis).1, Triple.ext_get fun axis => ?_⟩
    rw [get_extents]
    exact (hsize axis).2
  · rintro ⟨h, rfl⟩ axis
    exact exponentOfSize_eq_ok_iff.mpr ⟨h axis, get_extents l axis⟩

theorem ofSizes_eq_error_iff {e : Error} : ofSizes s = .error e ↔
    ∃ axis, FirstOffending s axis ∧ e = (Error.notPowerOfTwo (s.get axis)).raised := by
  rw [ofSizes, map_mk_eq_error_iff, Triple.traverse_eq_error_iff]
  simp only [exponentOfSize_eq_error_iff, exists_exponentOfSize_iff]
  constructor
  · rintro ⟨axis, ⟨hoffends, he⟩, hearlier⟩
    exact ⟨axis, ⟨hoffends, hearlier⟩, he⟩
  · rintro ⟨axis, ⟨hoffends, hearlier⟩, he⟩
    exact ⟨axis, ⟨hoffends, he⟩, hearlier⟩

theorem exists_ofSizes_iff : (∃ l, ofSizes s = .ok l) ↔ ∀ axis, IsPower (s.get axis) := by
  constructor
  · rintro ⟨l, h⟩ axis
    obtain ⟨-, rfl⟩ := ofSizes_eq_ok_iff.mp h
    exact ⟨_, get_extents l axis⟩
  · intro h
    rcases hmade : ofSizes s with e | l
    · obtain ⟨axis, hfirst, -⟩ := ofSizes_eq_error_iff.mp hmade
      exact absurd (h axis) hfirst.offends
    · exact ⟨l, rfl⟩

/-- Making a layout from sizes and taking the sizes of a layout undo each other. What is refused is
the first size that is not a power of two, and the message names it if it can be written. -/
theorem ofSizes_inverts_sizes :
    (∀ s, (∃ l, ofSizes s = .ok l) ↔ ∀ axis, ∃ e : Nat, s.get axis = 2 ^ e) ∧
    (∀ s l, ofSizes s = .ok l → l.sizes = .ok s ∧ l.masks = .ok (s.map (· - 1))) ∧
    (∀ s, (¬ ∃ l, ofSizes s = .ok l) → ∃ axis, FirstOffending s axis ∧
      (HasNumeral (s.get axis) → ofSizes s = .error (.notPowerOfTwo (s.get axis))) ∧
      (¬ HasNumeral (s.get axis) → ofSizes s = .error .tooManyDigits)) ∧
    (∀ size, (Error.notPowerOfTwo size).message =
      "Chunk size must be a power of two: " ++ toString size) ∧
    ∀ l : Layout, l.NonNegative → ∃ s, l.sizes = .ok s ∧ ofSizes s = .ok l := by
  refine ⟨fun s => exists_ofSizes_iff, ?_, ?_, fun size => rfl, ?_⟩
  · intro s l h
    obtain ⟨hnonneg, rfl⟩ := ofSizes_eq_ok_iff.mp h
    exact ⟨sizes_of_nonNegative hnonneg, masks_of_nonNegative hnonneg⟩
  · intro s h
    rcases hmade : ofSizes s with e | l
    · obtain ⟨axis, hfirst, he⟩ := ofSizes_eq_error_iff.mp hmade
      have hshown : (Error.notPowerOfTwo (s.get axis)).integers = [s.get axis] := rfl
      refine ⟨axis, hfirst, fun hnumeral => ?_, fun hlong => ?_⟩
      · rw [he, Error.raised_of_hasNumeral hshown hnumeral]
      · rw [he, Error.raised_of_not_hasNumeral hshown hlong]
    · exact absurd ⟨l, hmade⟩ h
  · intro l h
    exact ⟨l.extents, sizes_of_nonNegative h, ofSizes_eq_ok_iff.mpr ⟨h, rfl⟩⟩

/-- A size past every machine word, a size of one block, and two sizes at fault. -/
theorem ofSizes_inverts_sizes_tall :
    (∃ s, (⟨⟨5, 70, 0⟩⟩ : Layout).sizes = .ok s ∧ ofSizes s = .ok ⟨⟨5, 70, 0⟩⟩) ∧
      (⟨⟨5, 70, 0⟩⟩ : Layout).masks = .ok ⟨31, 2 ^ 70 - 1, 0⟩ ∧
      ofSizes ⟨4, 0, 3⟩ = .error (.notPowerOfTwo 0) := by
  obtain ⟨hexists, hback, hrefused, -, hmade⟩ := ofSizes_inverts_sizes
  have hnonneg : (⟨⟨5, 70, 0⟩⟩ : Layout).NonNegative := by
    rintro (_ | _ | _) <;> decide
  obtain ⟨s, hsizes, hlayout⟩ := hmade _ hnonneg
  have hs : s = ⟨32, 2 ^ 70, 1⟩ := by
    rw [sizes_of_nonNegative hnonneg] at hsizes
    cases hsizes
    rfl
  refine ⟨⟨s, hsizes, hlayout⟩, ?_, ?_⟩
  · rw [(hback _ _ hlayout).2, hs]
    rfl
  · have hzero : ¬ IsPower 0 := fun h => absurd h.pos (by decide)
    have hfour : IsPower 4 := ⟨2, rfl⟩
    have hnone : ¬ ∃ l, ofSizes ⟨4, 0, 3⟩ = .ok l := by
      rw [hexists]
      exact fun h => hzero (h .y)
    obtain ⟨axis, hfirst, herror, -⟩ := hrefused _ hnone
    cases axis with
    | x => exact absurd hfour hfirst.offends
    | y => exact herror (hasNumeral_of_lt 1 (by decide) (by decide))
    | z => exact absurd (hfirst.earlier .y trivial) hzero

/-- A size of one digit more than can be written is refused, with a message that is too short to
name it. -/
theorem ofSizes_long_not_named :
    ofSizes ⟨-10 ^ maxDigits, 1, 1⟩ = .error .tooManyDigits ∧
      Error.tooManyDigits.message.length < (toString (-10 ^ maxDigits : Int)).length := by
  have hlong : ¬ HasNumeral (-10 ^ maxDigits) := hasNumeral_neg_iff.not.mpr not_hasNumeral_pow
  have hpos : (0 : Int) < 10 ^ maxDigits := Int.pow_pos (by decide)
  generalize (10 : Int) ^ maxDigits = n at hlong hpos ⊢
  constructor
  · have hnegative : ¬ IsPower (-n) := fun h => absurd h.pos (by omega)
    have hraised := Error.raised_of_not_hasNumeral (e := .notPowerOfTwo (-n)) rfl hlong
    refine ofSizes_eq_error_iff.mpr ⟨.x, ⟨hnegative, ?_⟩, hraised.symm⟩
    rintro (_ | _ | _) ⟨⟩
  · have hshort : Error.tooManyDigits.message.length ≤ maxDigits := by decide +kernel
    exact hshort.trans_lt (maxDigits_lt_length_toString hlong)

end VoxelGrid.Layout
