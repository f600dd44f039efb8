import VoxelGrid.Layout.Draft
import VoxelGrid.Proofs.Json.Integers
import VoxelGrid.Proofs.Json.Members
import VoxelGrid.Proofs.Layout.Basic

/-! Which drafts are layouts, and which complaint the others meet with: that about the first axis
without a valid exponent. -/

namespace VoxelGrid

namespace Draft

/-- The value is a number that is valid as an exponent. -/
def IsPower (value : Json) (power : Int) : Prop :=
  value = .int power ∧ 0 ≤ power ∧ power ≤ maxPower

/-- What is wrong with a value for an exponent. Its range is looked at when its type is right. -/
inductive Complaint (axis : Axis) : Json → Error → Prop where
  | notInteger {value : Json} (h : ∀ n, value ≠ .int n) :
    Complaint axis value (.powerNotInteger axis value)
  | outOfRange {n : Int} (h : n < 0 ∨ maxPower < n) :
    Complaint axis (.int n) (.powerOutOfRange axis n)

theorem checkPower_eq_ok_iff {axis : Axis} {value : Json} {power : Int} :
    checkPower axis value = .ok power ↔ IsPower value power := by
  cases value with
  | int n =>
    rw [checkPower, IsPower]
    split
    · next hrange =>
      refine iff_of_false nofun ?_
      rintro ⟨⟨⟩, hlow, hhigh⟩
      exact hrange.elim (Int.not_lt.mpr hlow) (Int.not_lt.mpr hhigh)
    · next hrange =>
      rw [not_or, Int.not_lt, Int.not_lt] at hrange
      constructor
      · rintro ⟨⟩
        exact ⟨rfl, hrange⟩
      · rintro ⟨⟨⟩, -⟩
        rfl
  | _ => exact iff_of_false nofun fun h => nomatch h.1

/-- A complaint shows the value that it is about. -/
theorem Complaint.integers_eq {axis : Axis} {value : Json} {e : Error}
    (h : Complaint axis value e) : e.integers = value.integers := by
  cases h <;> rfl

theorem Complaint.raised_eq {axis : Axis} {value : Json} {e : Error} (h : Complaint axis value e)
    (hvalue : value.IsWritable) : e.raised = e :=
  Error.raised_of_forall (h.integers_eq ▸ hvalue)

theorem checkPower_of_complaint {axis : Axis} {value : Json} {e : Error}
    (h : Complaint axis value e) : checkPower axis value = .error e.raised := by
  cases h with
  | notInteger hvalue =>
    cases value with
    | int n => exact absurd rfl (hvalue n)
    | _ => rfl
  | outOfRange hrange => rw [checkPower, if_pos hrange]

theorem exists_complaint (axis : Axis) {value : Json} (h : ¬ ∃ power, IsPower value power) :
    ∃ e, Complaint axis value e := by
  by_cases hinteger : ∃ n, value = .int n
  · obtain ⟨n, rfl⟩ := hinteger
    refine ⟨_, .outOfRange ?_⟩
    by_contra hrange
    rw [not_or, Int.not_lt, Int.not_lt] at hrange
    exact h ⟨n, rfl, hrange⟩
  · exact ⟨_, .notInteger fun n hn => hinteger ⟨n, hn⟩⟩

theorem checkPower_eq_error_iff {axis : Axis} {value : Json} (hvalue : value.IsWritable)
    {e : Error} : checkPower axis value = .error e ↔ Complaint axis value e := by
  constructor
  · intro h
    have hnone : ¬ ∃ power, IsPower value power := by
      rintro ⟨power, hpower⟩
      cases h.symm.trans (checkPower_eq_ok_iff.mpr hpower)
    obtain ⟨cause, hcause⟩ := exists_complaint axis hnone
    have hraised := checkPower_of_complaint hcause
    rw [hcause.raised_eq hvalue, h] at hraised
    exact Except.error.inj hraised ▸ hcause
  · intro h
    rw [checkPower_of_complaint h, h.raised_eq hvalue]

/-- Every integer in the draft can be written. -/
def IsWritable (d : Draft) : Prop := ∀ axis, (d.get axis).IsWritable

variable {d : Draft}

theorem validate_eq_ok_iff {l : Layout} :
    d.validate = .ok l ↔ ∀ axis, IsPower (d.get axis) (l.powers.get axis) := by
  rw [validate, Layout.map_mk_eq_ok_iff, Triple.traverse_eq_ok_iff]
  exact forall_congr' fun axis => checkPower_eq_ok_iff

theorem validate_eq_error_iff (hd : d.IsWritable) {e : Error} : d.validate = .error e ↔
    ∃ axis, Complaint axis (d.get axis) e ∧
      ∀ earlier, earlier.Before axis → ∃ power, IsPower (d.get earlier) power := by
  rw [validate, Layout.map_mk_eq_error_iff, Triple.traverse_eq_error_iff]
  simp only [checkPower_eq_error_iff (hd _), checkPower_eq_ok_iff]

theorem get_draft (l : Layout) (axis : Axis) : l.draft.get axis = .int (l.powers.get axis) :=
  l.powers.get_map _ axis

theorem isWritable_draft {l : Layout} (h : ∀ axis, HasNumeral (l.powers.get axis)) :
    l.draft.IsWritable := by
  intro axis
  rw [get_draft]
  exact List.forall_mem_singleton.mpr (h axis)

section Layouts

variable {l : Layout} (hnonneg : l.NonNegative)
include hnonneg

theorem isPower_draft {axis : Axis} (h : l.powers.get axis ≤ maxPower) :
    IsPower (l.draft.get axis) (l.powers.get axis) :=
  ⟨get_draft l axis, hnonneg axis, h⟩

theorem validate_draft_of_le (h : ∀ axis, l.powers.get axis ≤ maxPower) :
    l.draft.validate = .ok l :=
  validate_eq_ok_iff.mpr fun axis => isPower_draft hnonneg (h axis)

theorem validate_draft_of_first (hnumeral : ∀ axis, HasNumeral (l.powers.get axis)) {axis : Axis}
    (h : maxPower < l.powers.get axis)
    (hearlier : ∀ earlier, earlier.Before axis → l.powers.get earlier ≤ maxPower) :
    l.draft.validate = .error (.powerOutOfRange axis (l.powers.get axis)) := by
  refine (validate_eq_error_iff (isWritable_draft hnumeral)).mpr ⟨axis, ?_, ?_⟩
  · rw [get_draft]
    exact .outOfRange (.inr h)
  · intro earlier hbefore
    exact ⟨_, isPower_draft hnonneg (hearlier earlier hbefore)⟩

end Layouts

theorem belowSurrogates_memberName (axis : Axis) : Json.BelowSurrogates (memberName axis) := by
  cases axis <;> decide

/-- The value that members give an axis: the last one under its name, or the standard exponent. -/
def valueOf (entries : List (Json.Literal × Json)) (axis : Axis) : Json :=
  (Json.lastValue? entries (memberName axis)).getD (.int (Layout.standard.powers.get axis))

/-- An exponent that members do not give is a small one. -/
theorem isWritable_valueOf {entries : List (Json.Literal × Json)}
    (h : ∀ entry ∈ entries, entry.2.IsWritable) (axis : Axis) :
    (valueOf entries axis).IsWritable := by
  rw [valueOf]
  cases hlast : Json.lastValue? entries (memberName axis) with
  | some value => exact Json.isWritable_of_lastValue? h hlast
  | none =>
    refine List.forall_mem_singleton.mpr (hasNumeral_of_lt 1 (by decide) ?_)
    cases axis <;> decide

theorem get_ofMembers {members : List (Text × Json)} {entries : List (Json.Literal × Json)}
    (h : ∀ {name : String}, Json.BelowSurrogates name →
      Json.lookup members (.ofString name) = Json.lastValue? entries name) (axis : Axis) :
    (ofMembers members).get axis = valueOf entries axis := by
  rw [valueOf, ← h (belowSurrogates_memberName axis)]
  cases axis <;> rfl

end Draft

end VoxelGrid
