import Mathlib.Tactic.GCongr
import Mathlib.Tactic.Linarith
import Mathlib.Tactic.Ring
import VoxelGrid.PowerOfTwo

/-! Exponents by halving. A round drops the last binary digit of a number above 1. After some rounds
what is left counts how often their power of two goes into the number; the last round leaves 1, so the
rounds count the whole part of the binary logarithm. -/

namespace VoxelGrid.PowerOfTwo

/-- One round of halving. -/
def halve (v : Int) : Int := v >>> (1 : Nat)

theorem halve_eq (v : Int) : halve v = v / 2 := by
  rw [halve, Int.shiftRight_eq_div_pow]
  rfl

/-- Along the rounds: a number at which halving stops, or one whose half has been dealt with. -/
@[elab_as_elim]
theorem halve_induction {motive : Int → Prop} (stop : ∀ v, v ≤ 1 → motive v)
    (round : ∀ v, 1 < v → motive (halve v) → motive v) (v : Int) : motive v :=
  if h : v ≤ 1 then stop v h
  else round v (not_le.mp h) (halve_induction stop round (halve v))
termination_by v.toNat
decreasing_by
  rw [halve_eq]
  omega

theorem exponent_of_le_one {v : Int} (h : v ≤ 1) : exponent v = 0 := by
  rw [exponent, halvings, if_pos (by omega)]

theorem exponent_of_one_lt {v : Int} (h : 1 < v) : exponent v = exponent (halve v) + 1 := by
  have hhalf : (halve v).toNat = v.toNat / 2 := by
    rw [halve_eq]
    omega
  rw [exponent, exponent, halvings, if_neg (by omega), hhalf]

/-- After some rounds `rest` is left of `v`: their power of two goes `rest` times into it. -/
structure Halved (v : Int) (rounds : Nat) (rest : Int) : Prop where
  low : rest * 2 ^ rounds ≤ v
  high : v < (rest + 1) * 2 ^ rounds

theorem Halved.refl (v : Int) : Halved v 0 v := by
  constructor <;> omega

theorem Halved.step {v rest : Int} {rounds : Nat} (h : Halved v rounds rest) :
    Halved v (rounds + 1) (halve rest) := by
  rw [halve_eq]
  constructor
  · calc rest / 2 * 2 ^ (rounds + 1) = rest / 2 * 2 * 2 ^ rounds := by ring
      _ ≤ rest * 2 ^ rounds := by
        gcongr
        omega
      _ ≤ v := h.low
  · calc v < (rest + 1) * 2 ^ rounds := h.high
      _ ≤ (rest / 2 + 1) * 2 * 2 ^ rounds := by
        gcongr
        omega
      _ = (rest / 2 + 1) * 2 ^ (rounds + 1) := by ring

theorem halved_iterate (v : Int) (rounds : Nat) : Halved v rounds (halve^[rounds] v) := by
  induction rounds with
  | zero => exact .refl v
  | succ rounds ih =>
    rw [Function.iterate_succ_apply']
    exact ih.step

/-- Halving stops, and the exponent says after how many rounds. -/
theorem isLeast_rounds (v : Int) : IsLeast {rounds | halve^[rounds] v ≤ 1} (exponent v) := by
  induction v using halve_induction with
  | stop v h =>
    rw [exponent_of_le_one h]
    exact ⟨h, fun rounds _ => Nat.zero_le rounds⟩
  | round v h ih =>
    rw [exponent_of_one_lt h]
    refine ⟨ih.1, fun rounds hstop => ?_⟩
    cases rounds with
    | zero => exact absurd hstop (not_le.mpr h)
    | succ rounds => exact Nat.succ_le_succ (ih.2 hstop)

theorem iterate_exponent {v : Int} (h : 1 ≤ v) : halve^[exponent v] v = 1 := by
  induction v using halve_induction with
  | stop v hle =>
    rw [exponent_of_le_one hle]
    exact le_antisymm hle h
  | round v hlt ih =>
    rw [exponent_of_one_lt hlt, Function.iterate_succ_apply]
    apply ih
    rw [halve_eq]
    omega

theorem two_pow_exponent_bounds {v : Int} (h : 1 ≤ v) :
    2 ^ exponent v ≤ v ∧ v < 2 ^ (exponent v + 1) := by
  have hrounds := halved_iterate v (exponent v)
  rw [iterate_exponent h] at hrounds
  obtain ⟨hlow, hhigh⟩ := hrounds
  rw [pow_succ']
  constructor <;> linarith

/-- No other exponent has the number between its power and the next. -/
theorem exponent_eq_of_bounds {v : Int} {e : Nat} (hlow : 2 ^ e ≤ v) (hhigh : v < 2 ^ (e + 1)) :
    exponent v = e := by
  have hpos : (1 : Int) ≤ 2 ^ e := one_le_pow₀ (by decide)
  obtain ⟨hlow', hhigh'⟩ := two_pow_exponent_bounds (hpos.trans hlow)
  have hle : e < exponent v + 1 :=
    (pow_lt_pow_iff_right₀ (one_lt_two (α := Int))).mp (hlow.trans_lt hhigh')
  have hge : exponent v < e + 1 :=
    (pow_lt_pow_iff_right₀ (one_lt_two (α := Int))).mp (hlow'.trans_lt hhigh)
  omega

theorem exponent_two_pow (e : Nat) : exponent (2 ^ e) = e := by
  apply exponent_eq_of_bounds le_rfl
  exact pow_lt_pow_right₀ one_lt_two (Nat.lt_succ_self e)

/-- Halving stops for every number. The rounds that it takes are the whole part of the binary
logarithm of a positive number, and none for the others. -/
theorem exponent_floors_log (v : Int) :
    IsLeast {rounds | halve^[rounds] v ≤ 1} (exponent v) ∧
      (1 ≤ v → 2 ^ exponent v ≤ v ∧ v < 2 ^ (exponent v + 1)) ∧
      (∀ e : Nat, v = 2 ^ e → exponent v = e) ∧
      (v ≤ 0 → exponent v = 0) := by
  refine ⟨isLeast_rounds v, two_pow_exponent_bounds, ?_, ?_⟩
  · rintro e rfl
    exact exponent_two_pow e
  · intro h
    exact exponent_of_le_one (by omega)

/-- A power of two past every machine word, the number before it, and a negative number. -/
theorem exponent_floors_log_large :
    exponent (2 ^ 70) = 70 ∧ (2 ^ exponent (2 ^ 70 - 1) ≤ (2 ^ 70 - 1 : Int) ∧
      (2 ^ 70 - 1 : Int) < 2 ^ (exponent (2 ^ 70 - 1) + 1)) ∧ exponent (-5) = 0 := by
  refine ⟨(exponent_floors_log _).2.2.1 70 rfl, (exponent_floors_log _).2.1 (by decide), ?_⟩
  exact (exponent_floors_log (-5)).2.2.2 (by decide)

end VoxelGrid.PowerOfTwo
