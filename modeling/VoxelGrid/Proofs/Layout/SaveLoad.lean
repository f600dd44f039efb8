import VoxelGrid.Proofs.Layout.File
import VoxelGrid.Proofs.Storage.Store

/-! Layouts that are saved and loaded again. What is written is a document whose members are the
exponents, so that loading it is a case of loading any document. -/

namespace VoxelGrid.Layout

open Storage (Store Place)

/-- The document that a layout is written as. -/
def written (l : Layout) : Json.Document :=
  let lineEnd := Json.Space.of ['\n']
  let indent := Json.Space.of ['\n', ' ', ' ']
  let colon := (Json.Space.empty, Json.Space.of [' '])
  let number axis := Json.Tree.number (.ofInt (l.powers.get axis))
  ⟨.empty, .object <|
    .cons indent (.plain "power_x") colon (number .x) .empty <|
    .cons indent (.plain "power_y") colon (number .y) .empty <|
    .last indent (.plain "power_z") colon (number .z) lineEnd, .empty⟩

variable {nesting : Nat} {l : Layout} {file : String} {s : Store} {place : Place}

theorem line_toList (name : String) (power : Int) : (line name power).toList =
    [' ', ' ', '"'] ++ name.toList ++ ['"', ':', ' '] ++ (Json.Number.ofInt power).text := by
  have hplain (t : String) : toString t = t := rfl
  simp [line, hplain, Json.Number.text_ofInt]

theorem document_toList (l : Layout) : l.document.toList = l.written.text := by
  have hx : (Json.Literal.plain "power_x").text = "power_x".toList := Json.Literal.text_plain rfl
  have hy : (Json.Literal.plain "power_y").text = "power_y".toList := Json.Literal.text_plain rfl
  have hz : (Json.Literal.plain "power_z").text = "power_z".toList := Json.Literal.text_plain rfl
  simp [document, members, line_toList, String.intercalate_cons_cons, written, Json.Document.text,
    Json.Tree.spelled, Json.Members.spelled, hx, hy, hz, Json.Space.empty, Json.Space.of,
    Json.isBlank, Triple.get]

theorem valueOf_written (l : Layout) (axis : Axis) :
    Draft.valueOf (l.written.root.entries?.getD []) axis = l.draft.get axis := by
  rw [Draft.get_draft, ← Json.Number.value_ofInt (l.powers.get axis)]
  cases axis <;> rfl

theorem fits_written (hnesting : 0 < nesting)
    (h : ∀ axis, (l.powers.get axis).natAbs < 10 ^ maxDigits) : l.written.root.Fits nesting :=
  ⟨hnesting, Json.Number.fits_ofInt (h .x), Json.Number.fits_ofInt (h .y),
    Json.Number.fits_ofInt (h .z)⟩

/-- Saving leaves the document at the place of the file, whatever was there. -/
theorem run_save_of_resolve (h : s.resolve file = .ok place) :
    (l.save file : StateM Store (Except Error Event)).run s =
      (l.sizes.map (.savedLayout · file),
        { s with files := Store.put s.files place (Utf8.encode l.written.text) }) := by
  simp only [save, document_toList, StateT.run_bind, Store.run_write h]
  rfl

theorem run_save_of_error {fault : Storage.Fault} (h : s.resolve file = .error fault) :
    (l.save file : StateM Store (Except Error Event)).run s = (.error (.storage fault file), s) := by
  simp only [save, StateT.run_bind, Store.run_write_of_error h]
  rfl

/-- What is loaded from the document of a layout is what its draft is valid as. -/
theorem ofText_written (hnesting : 0 < nesting)
    (h : ∀ axis, (l.powers.get axis).natAbs < 10 ^ maxDigits) :
    ofText nesting file l.written.text = l.draft.validate := by
  have hanswer : AnswersByLast file l.written.root (ofText nesting file l.written.text) :=
    ofText_answersByLast (fits_written hnesting h)
  cases hdraft : l.draft.validate with
  | ok l' =>
    refine (hanswer.1 l').mpr fun axis => ?_
    have hpower := Draft.validate_eq_ok_iff.mp hdraft axis
    rwa [← valueOf_written] at hpower
  | error e =>
    refine (hanswer.2 e).mpr ?_
    have hwritable := Draft.isWritable_draft fun axis => hasNumeral_iff.mpr (h axis)
    have hcomplaint := (Draft.validate_eq_error_iff hwritable).mp hdraft
    simp only [← valueOf_written] at hcomplaint
    exact hcomplaint

/-- A valid layout is loaded from the document that it is written as. -/
theorem run_load_of_written (hnesting : 0 < nesting)
    (hread : s.read file = .ok (Utf8.encode l.written.text)) (h : l.draft.validate = .ok l) :
    (load nesting file : StateM Store (Except Error Layout)).run s = (.ok l, s) := by
  have hdigits (axis : Axis) : (l.powers.get axis).natAbs < 10 ^ maxDigits := by
    obtain ⟨-, hlow, hhigh⟩ := Draft.validate_eq_ok_iff.mp h axis
    have hmaxPower : maxPower < 10 ^ 2 := by decide
    have hpower : (l.powers.get axis).natAbs < 10 ^ 2 := by omega
    exact lt_pow_maxDigits 2 (by decide) hpower
  rw [run_load hread, ofOctets_encode, ofText_written hnesting hdigits, h]

/-- A layout is saved, and then loaded as itself or refused for its first exponent that is too
large. -/
theorem load_save (hnesting : 0 < nesting) (hplace : s.resolve file = .ok place)
    (hnonneg : l.NonNegative) (hdigits : ∀ axis, l.powers.get axis < 10 ^ maxDigits) :
    ((l.save file : StateM Store (Except Error Event)).run s).1 =
        .ok (.savedLayout l.extents file) ∧
    ∃ answer, (load nesting file : StateM Store (Except Error Layout)).run
        ((l.save file : StateM Store (Except Error Event)).run s).2 =
        (answer, ((l.save file : StateM Store (Except Error Event)).run s).2) ∧
      answer = l.draft.validate ∧
      ((∀ axis, l.powers.get axis ≤ maxPower) → answer = .ok l) ∧
      ∀ axis, maxPower < l.powers.get axis →
        (∀ earlier, earlier.Before axis → l.powers.get earlier ≤ maxPower) →
        answer = .error (.powerOutOfRange axis (l.powers.get axis)) := by
  have hnatAbs (axis : Axis) : (l.powers.get axis).natAbs < 10 ^ maxDigits := by
    rw [← Int.ofNat_lt, Int.natAbs_of_nonneg (hnonneg axis), Int.natCast_pow]
    exact hdigits axis
  rw [run_save_of_resolve hplace, run_load (Store.read_put hplace), ofOctets_encode,
    ofText_written hnesting hnatAbs, sizes_of_nonNegative hnonneg]
  refine ⟨rfl, _, rfl, rfl, Draft.validate_draft_of_le hnonneg, ?_⟩
  intro axis hlarge hearlier
  exact Draft.validate_draft_of_first hnonneg (fun axis => hasNumeral_iff.mpr (hnatAbs axis)) hlarge
    hearlier

/-- Over a file that is no text, a valid layout, and one with two exponents that are too large. -/
theorem load_save_over_octet :
    ((load 1 "layout.json" : StateM Store (Except Error Layout)).run
        ((save ⟨4, 8, 4⟩ "layout.json" : StateM Store (Except Error Event)).run
          (storeOf [0xFF])).2).1 = .ok ⟨4, 8, 4⟩ ∧
      ((load 1 "layout.json" : StateM Store (Except Error Layout)).run
        ((save ⟨5, 31, 40⟩ "layout.json" : StateM Store (Except Error Event)).run
          (storeOf [0xFF])).2).1 = .error (.powerOutOfRange .y 31) := by
  have hplace : (storeOf [0xFF]).resolve "layout.json" = .ok ["layout.json"] := rfl
  have hsmall {n : Int} (h : n < 10 ^ 2) : n < 10 ^ maxDigits :=
    h.trans_le (pow_le_pow_right₀ (by decide) (by decide))
  constructor
  · have hnonneg : Layout.NonNegative ⟨4, 8, 4⟩ := by rintro (_ | _ | _) <;> decide
    have hdigits : ∀ axis, (Layout.mk ⟨4, 8, 4⟩).powers.get axis < 10 ^ maxDigits := by
      rintro (_ | _ | _) <;> exact hsmall (by decide)
    obtain ⟨-, answer, hrun, -, hok, -⟩ := load_save Nat.one_pos hplace hnonneg hdigits
    rw [hrun]
    exact hok (by rintro (_ | _ | _) <;> decide)
  · have hnonneg : Layout.NonNegative ⟨5, 31, 40⟩ := by rintro (_ | _ | _) <;> decide
    have hdigits : ∀ axis, (Layout.mk ⟨5, 31, 40⟩).powers.get axis < 10 ^ maxDigits := by
      rintro (_ | _ | _) <;> exact hsmall (by decide)
    obtain ⟨-, answer, hrun, -, -, hrefused⟩ := load_save Nat.one_pos hplace hnonneg hdigits
    rw [hrun]
    exact hrefused .y (by decide) (by rintro (_ | _ | _) ⟨⟩; decide)

end VoxelGrid.Layout
