import VoxelGrid.Proofs.Layout.Negative
import VoxelGrid.Proofs.Layout.SaveLoad

/-! What a save leaves behind. The document is written before the sizes are worked out, so a layout
with a negative exponent replaces the file and its save fails after that. -/

namespace VoxelGrid.Layout

open Storage (Store Place)

/-- What comes of a save, and the store after it. -/
def saving (l : Layout) (file : String) (s : Store) : Except Error Event × Store :=
  (l.save file : StateM Store (Except Error Event)).run s

/-- A save that fails leaves the file as it was, and one that succeeds leaves the document. -/
structure SavesAtomically (l : Layout) (file : String) (s : Store) : Prop where
  failed : ∀ e, (l.saving file s).1 = .error e → (l.saving file s).2.read file = s.read file
  saved : ∀ event, (l.saving file s).1 = .ok event →
    (l.saving file s).2.read file = .ok (Utf8.encode l.document.toList)

/-- The outcome of a save to a file that can be opened. The answer depends on the exponents, the
store after it does not: it holds the document, which is loaded as any other. -/
structure Replaced (l : Layout) (file : String) (s : Store) (place : Place) : Prop where
  succeeds : l.NonNegative → (l.saving file s).1 = .ok (.savedLayout l.extents file)
  fails : ¬ l.NonNegative → (l.saving file s).1 = .error .negativeShift
  read : (l.saving file s).2.read file = .ok (Utf8.encode l.document.toList)
  others : ∀ other, other ≠ place → (l.saving file s).2.get? other = s.get? other
  directories : (l.saving file s).2.directories = s.directories
  load : ∀ nesting, 0 < nesting →
    (Layout.load nesting file : StateM Store (Except Error Layout)).run (l.saving file s).2 =
      (l.draft.validate, (l.saving file s).2)
  unloadable : ¬ l.NonNegative → ∀ nesting, 0 < nesting → ∃ e,
    (Layout.load nesting file : StateM Store (Except Error Layout)).run (l.saving file s).2 =
      (.error e, (l.saving file s).2)

variable {l : Layout} {file : String} {s : Store} {place : Place}

theorem saving_of_resolve (h : s.resolve file = .ok place) : l.saving file s =
    (l.sizes.map (.savedLayout · file),
      { s with files := Store.put s.files place (Utf8.encode l.document.toList) }) := by
  rw [document_toList]
  exact run_save_of_resolve h

theorem saving_of_error {fault : Storage.Fault} (h : s.resolve file = .error fault) :
    l.saving file s = (.error (.storage fault file), s) :=
  run_save_of_error h

theorem exists_validate_error (h : ¬ l.NonNegative) : ∃ e, l.draft.validate = .error e := by
  rcases hvalid : l.draft.validate with e | l'
  · exact ⟨e, rfl⟩
  · obtain ⟨axis, hneg⟩ := not_nonNegative_iff.mp h
    obtain ⟨hpower, hlow, -⟩ := Draft.validate_eq_ok_iff.mp hvalid axis
    rw [Draft.get_draft, Json.int.injEq] at hpower
    omega

theorem replaced_of_resolve (h : s.resolve file = .ok place)
    (hdigits : ∀ axis, (l.powers.get axis).natAbs < 10 ^ maxDigits) :
    l.Replaced file s place := by
  have hsaving := saving_of_resolve (l := l) h
  have hread : (l.saving file s).2.read file = .ok (Utf8.encode l.document.toList) := by
    rw [hsaving]
    exact Store.read_put h
  have hload (nesting : Nat) (hnesting : 0 < nesting) :
      (load nesting file : StateM Store (Except Error Layout)).run (l.saving file s).2 =
        (l.draft.validate, (l.saving file s).2) := by
    rw [run_load hread, ofOctets_encode, document_toList, ofText_written hnesting hdigits]
  refine ⟨fun hnonneg => ?_, fun hneg => ?_, hread, fun other hother => ?_, ?_, hload,
    fun hneg nesting hnesting => ?_⟩
  · rw [hsaving, sizes_of_nonNegative hnonneg]
    rfl
  · rw [hsaving, sizes_of_not_nonNegative hneg]
    rfl
  · rw [hsaving, Store.get?_put, if_neg hother]
  · rw [hsaving]
  · obtain ⟨e, he⟩ := exists_validate_error hneg
    exact ⟨e, he ▸ hload nesting hnesting⟩

theorem Replaced.savesAtomically_iff (h : l.Replaced file s place) :
    l.SavesAtomically file s ↔
      l.NonNegative ∨ s.read file = .ok (Utf8.encode l.document.toList) := by
  constructor
  · intro hsaves
    -- the save fails, so what is read after it was there before
    refine or_iff_not_imp_left.mpr fun hneg => ?_
    exact (hsaves.failed _ (h.fails hneg)).symm.trans h.read
  · intro hcases
    refine ⟨fun e he => ?_, fun _ _ => h.read⟩
    rcases hcases with hnonneg | hsame
    · rw [h.succeeds hnonneg] at he
      cases he
    · exact h.read.trans hsame.symm

/-- Either the file cannot be opened and nothing happens, or it is replaced whatever the answer is. So
the one save that fails and loses what was in the file is that of a layout with a negative exponent to
a file that did not hold its document already. -/
theorem save_outcome (hdigits : ∀ axis, (l.powers.get axis).natAbs < 10 ^ maxDigits)
    (file : String) (s : Store) :
    (∀ fault, s.resolve file = .error fault → l.saving file s = (.error (.storage fault file), s)) ∧
    (∀ place, s.resolve file = .ok place → l.Replaced file s place) ∧
    (l.SavesAtomically file s ↔ l.NonNegative ∨
      s.read file = .ok (Utf8.encode l.document.toList) ∨
        ∃ fault, s.resolve file = .error fault) := by
  refine ⟨fun _ => saving_of_error, fun _ hplace => replaced_of_resolve hplace hdigits, ?_⟩
  cases hresolve : s.resolve file with
  | ok place =>
    rw [(replaced_of_resolve hresolve hdigits).savesAtomically_iff]
    simp
  | error fault =>
    have hsaving := saving_of_error (l := l) hresolve
    refine iff_of_true ⟨fun e _ => ?_, fun event hevent => ?_⟩ (.inr (.inr ⟨fault, rfl⟩))
    · rw [hsaving]
    · rw [hsaving] at hevent
      cases hevent

theorem read_storeOf (octets : List UInt8) : (storeOf octets).read "layout.json" = .ok octets := rfl

/-- A plain layout over a file that is no text, and one with a negative exponent over its own
document. -/
theorem save_outcome_over_file :
    let negative : Layout := ⟨5, -1, 5⟩
    (∀ axis, (negative.powers.get axis).natAbs < 10 ^ maxDigits) ∧
      SavesAtomically ⟨4, 8, 4⟩ "layout.json" (storeOf [0xFF]) ∧
        negative.SavesAtomically "layout.json" (storeOf (Utf8.encode negative.document.toList)) := by
  intro negative
  have hplain : ∀ axis, ((Layout.mk ⟨4, 8, 4⟩).powers.get axis).natAbs < 10 ^ maxDigits := by
    rintro (_ | _ | _) <;> exact lt_pow_maxDigits 1 (by decide) (by decide)
  have hnegative : ∀ axis, (negative.powers.get axis).natAbs < 10 ^ maxDigits := by
    rintro (_ | _ | _) <;> exact lt_pow_maxDigits 1 (by decide) (by decide)
  have hnonneg : (Layout.mk ⟨4, 8, 4⟩).NonNegative := by rintro (_ | _ | _) <;> decide
  have hplainSave := (save_outcome hplain "layout.json" (storeOf [0xFF])).2.2.mpr (.inl hnonneg)
  have hnegativeSave := (save_outcome hnegative "layout.json"
    (storeOf (Utf8.encode negative.document.toList))).2.2.mpr (.inr (.inl (read_storeOf _)))
  exact ⟨hnegative, hplainSave, hnegativeSave⟩

/-- A layout with a negative exponent over another one: the save fails and the other layout is lost. -/
theorem not_savesAtomically_negative :
    let earlier : Layout := ⟨4, 8, 4⟩
    let negative : Layout := ⟨5, -1, 5⟩
    let s := storeOf (Utf8.encode earlier.document.toList)
    (negative.saving "layout.json" s).1 = .error .negativeShift ∧
      s.read "layout.json" = .ok (Utf8.encode earlier.document.toList) ∧
        (negative.saving "layout.json" s).2.read "layout.json" =
          .ok (Utf8.encode negative.document.toList) ∧
            ¬ negative.SavesAtomically "layout.json" s := by
  intro earlier negative s
  have hsaving : negative.saving "layout.json" s = (.error .negativeShift,
      { s with files := Store.put s.files ["layout.json"] (Utf8.encode negative.document.toList) }) :=
    saving_of_resolve rfl
  have hread : s.read "layout.json" = .ok (Utf8.encode earlier.document.toList) := read_storeOf _
  have hafter : (negative.saving "layout.json" s).2.read "layout.json" =
      .ok (Utf8.encode negative.document.toList) := by
    rw [hsaving]
    exact Store.read_put rfl
  refine ⟨by rw [hsaving], hread, hafter, fun hsaves => ?_⟩
  have hsame := hsaves.failed .negativeShift (by rw [hsaving])
  rw [hafter, hread, Except.ok.injEq] at hsame
  revert hsame
  decide

end VoxelGrid.Layout
