import Mathlib.Algebra.Order.Ring.Int
import VoxelGrid.Layout.Basic

/-! Values for the three axes, and the sizes of chunks under a layout whose exponents are not
negative. A traversal answers with what every axis gives, or with the failure of the first axis that
fails. -/

namespace VoxelGrid

/-- The order in which the axes are looked at. -/
def Axis.Before : Axis → Axis → Prop
  | .x, .y | .x, .z | .y, .z => True
  | _, _ => False

namespace Triple

variable {α β ε : Type}

theorem get_map (t : Triple α) (f : α → β) (axis : Axis) : (t.map f).get axis = f (t.get axis) := by
  cases axis <;> rfl

theorem ext_get {s t : Triple α} (h : ∀ axis, s.get axis = t.get axis) : s = t := by
  rcases s with ⟨x, y, z⟩
  rcases t with ⟨x', y', z'⟩
  obtain rfl : x = x' := h .x
  obtain rfl : y = y' := h .y
  obtain rfl : z = z' := h .z
  rfl

variable {f : Axis → α → Except ε β} {t : Triple α}

theorem traverse_eq_ok_iff {r : Triple β} :
    t.traverse f = .ok r ↔ ∀ axis, f axis (t.get axis) = .ok (r.get axis) := by
  constructor
  · intro h
    rw [traverse] at h
    rcases hx : f .x t.x with e | x <;> rw [hx] at h <;> [cases h; skip]
    rcases hy : f .y t.y with e | y <;> rw [hy] at h <;> [cases h; skip]
    rcases hz : f .z t.z with e | z <;> rw [hz] at h <;> cases h
    rintro (_ | _ | _)
    · exact hx
    · exact hy
    · exact hz
  · intro h
    have hx : f .x t.x = .ok r.x := h .x
    have hy : f .y t.y = .ok r.y := h .y
    have hz : f .z t.z = .ok r.z := h .z
    rw [traverse, hx, hy, hz]
    rfl

/-- The first axis that fails decides. -/
theorem traverse_eq_error_iff {e : ε} :
    t.traverse f = .error e ↔ ∃ axis, f axis (t.get axis) = .error e ∧
      ∀ earlier, earlier.Before axis → ∃ b, f earlier (t.get earlier) = .ok b := by
  rw [traverse]
  constructor
  · intro h
    rcases hx : f .x t.x with ex | x <;> rw [hx] at h
    · cases h
      exact ⟨.x, hx, by rintro (_ | _ | _) ⟨⟩⟩
    rcases hy : f .y t.y with ey | y <;> rw [hy] at h
    · cases h
      refine ⟨.y, hy, ?_⟩
      rintro (_ | _ | _) ⟨⟩
      exact ⟨x, hx⟩
    rcases hz : f .z t.z with ez | z <;> rw [hz] at h
    · cases h
      refine ⟨.z, hz, ?_⟩
      rintro (_ | _ | _) ⟨⟩
      · exact ⟨x, hx⟩
      · exact ⟨y, hy⟩
    · cases h
  · rintro ⟨axis, he, hearlier⟩
    cases axis with
    | x =>
      have hx : f .x t.x = .error e := he
      rw [hx]
      rfl
    | y =>
      obtain ⟨x, hx⟩ : ∃ x, f .x t.x = .ok x := hearlier .x trivial
      have hy : f .y t.y = .error e := he
      rw [hx, hy]
      rfl
    | z =>
      obtain ⟨x, hx⟩ : ∃ x, f .x t.x = .ok x := hearlier .x trivial
      obtain ⟨y, hy⟩ : ∃ y, f .y t.y = .ok y := hearlier .y trivial
      have hz : f .z t.z = .error e := he
      rw [hx, hy, hz]
      rfl

/-- Where every axis that fails does so for the same reason, it does not matter which one is first. -/
theorem traverse_of_error {e : ε} (h : ∃ axis, f axis (t.get axis) = .error e)
    (honly : ∀ axis e', f axis (t.get axis) = .error e' → e' = e) : t.traverse f = .error e := by
  rcases htraverse : t.traverse f with e' | r
  · obtain ⟨axis, herror, -⟩ := traverse_eq_error_iff.mp htraverse
    rw [honly axis e' herror]
  · obtain ⟨axis, herror⟩ := h
    have hok := traverse_eq_ok_iff.mp htraverse axis
    rw [herror] at hok
    cases hok

end Triple

namespace Layout

theorem map_mk_eq_ok_iff {powers : Except Error (Triple Int)} {l : Layout} :
    powers.map Layout.mk = .ok l ↔ powers = .ok l.powers := by
  rcases powers with e | powers
  · exact iff_of_false nofun nofun
  · constructor <;> rintro ⟨⟩ <;> rfl

theorem map_mk_eq_error_iff {powers : Except Error (Triple Int)} {e : Error} :
    powers.map Layout.mk = .error e ↔ powers = .error e := by
  rcases powers with e' | powers
  · constructor <;> rintro ⟨⟩ <;> rfl
  · exact iff_of_false nofun nofun

def NonNegative (l : Layout) : Prop := ∀ axis, 0 ≤ l.powers.get axis

/-- The sizes of a chunk, where no exponent is negative. -/
def extents (l : Layout) : Triple Int := l.powers.map fun power => 2 ^ power.toNat

theorem get_extents (l : Layout) (axis : Axis) :
    l.extents.get axis = 2 ^ (l.powers.get axis).toNat :=
  l.powers.get_map _ axis

theorem extents_pos (l : Layout) (axis : Axis) : 0 < l.extents.get axis := by
  rw [get_extents]
  exact Int.pow_pos (by decide)

theorem extent_of_nonneg {power : Int} (h : 0 ≤ power) : extent power = .ok (2 ^ power.toNat) := by
  rw [extent, shiftLeft_of_nonneg _ h, one_mul]
  rfl

theorem mask_of_nonneg {power : Int} (h : 0 ≤ power) : mask power = .ok (2 ^ power.toNat - 1) := by
  rw [mask, extent_of_nonneg h]
  rfl

variable {l : Layout}

theorem sizes_of_nonNegative (h : l.NonNegative) : l.sizes = .ok l.extents := by
  refine Triple.traverse_eq_ok_iff.mpr fun axis => ?_
  rw [extent_of_nonneg (h axis), get_extents]

theorem masks_of_nonNegative (h : l.NonNegative) : l.masks = .ok (l.extents.map (· - 1)) := by
  refine Triple.traverse_eq_ok_iff.mpr fun axis => ?_
  rw [mask_of_nonneg (h axis), Triple.get_map, get_extents]

end Layout

end VoxelGrid
