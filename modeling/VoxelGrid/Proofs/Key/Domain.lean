import VoxelGrid.Proofs.Key.Order
import VoxelGrid.Proofs.Key.RoundTrip

/-! The pairs that have keys. The largest key lies in the middle of a diagonal, so the pairs of that
diagonal have keys as long as their second component is in its lower half. Earlier diagonals lie
below the largest key and later ones above it. The refusal of a pair shows its place, which has about
twice as many digits as the components. -/

namespace VoxelGrid

/-- Folding doubles the distance from zero, with the negative numbers one place earlier. -/
theorem ZigZag.fold_lt_two_mul_iff {x b : Int} : fold x < 2 * b ↔ -b ≤ x ∧ x < b := by
  unfold fold
  split <;> omega

namespace Key

open Diagonal ZigZag

/-- The pair lies on a diagonal past the last one with keys, or in the upper half of that one. -/
def PastLast (first second : Int) : Prop :=
  2 ^ 32 ≤ first + second ∨ first + second = 2 ^ 32 - 1 ∧ 2 ^ 31 ≤ second

/-- The last pair with a key. -/
theorem keyMax_eq_pair : keyMax = pair (2 ^ 31) (2 ^ 31 - 1) := by decide

theorem keyMax_lt_pair_iff {first second : Int} (h1 : 0 ≤ first) (h2 : 0 ≤ second) :
    keyMax < pair first second ↔ PastLast first second := by
  rw [keyMax_eq_pair, pair_lt_pair_iff (by decide) (by decide) h1 h2, PastLast]
  omega

theorem keyMax_lt_place_iff {x y : Int} : keyMax < place x y ↔ PastLast (fold x) (fold y) :=
  keyMax_lt_pair_iff (fold_nonneg x) (fold_nonneg y)

theorem exists_encode_error_iff_pastLast {x y : Int} :
    (∃ e, encode x y = .error e) ↔ PastLast (fold x) (fold y) := by
  rw [exists_encode_error_iff, keyMax_lt_place_iff]

theorem exists_encode_iff {x y : Int} :
    (∃ c, encode x y = .ok c) ↔ ¬ PastLast (fold x) (fold y) := by
  rw [← keyMax_lt_place_iff, not_lt]
  constructor
  · rintro ⟨c, h⟩
    obtain ⟨rfl, hle⟩ := encode_eq_ok_iff.mp h
    exact hle
  · intro hle
    exact ⟨place x y, encode_eq_ok_iff.mpr ⟨rfl, hle⟩⟩

theorem exists_encode_of_lt {x y : Int} (hx : fold x < 2 ^ 31) (hy : fold y < 2 ^ 31) :
    ∃ c, encode x y = .ok c := by
  rw [exists_encode_iff, PastLast]
  omega

theorem lt_of_exists_encode {x y : Int} (h : ∃ c, encode x y = .ok c) :
    fold x < 2 ^ 32 ∧ fold y < 2 ^ 32 := by
  have hx := fold_nonneg x
  have hy := fold_nonneg y
  rw [exists_encode_iff, PastLast] at h
  omega

/-- Components of at most so many digits have a place that can be written. -/
def componentDigits : Nat := maxDigits / 2 - 1

theorem hasNumeral_place {x y : Int} (hx : x.natAbs < 10 ^ componentDigits)
    (hy : y.natAbs < 10 ^ componentDigits) : HasNumeral (place x y) := by
  have hxFold := fold_nonneg x
  have hyFold := fold_nonneg y
  have hfold (w : Int) : fold w ≤ 2 * w.natAbs := by
    rw [fold]
    split <;> omega
  have hxDouble := hfold x
  have hyDouble := hfold y
  have hsum : fold x + fold y + 1 ≤ 10 ^ (componentDigits + 1) := by
    have hxLt : (x.natAbs : Int) < 10 ^ componentDigits := by exact_mod_cast hx
    have hyLt : (y.natAbs : Int) < 10 ^ componentDigits := by exact_mod_cast hy
    rw [pow_succ]
    omega
  have hsquare : ((10 : Int) ^ (componentDigits + 1)) ^ 2 = 10 ^ maxDigits := by
    rw [← pow_mul]
    rfl
  have hlt : place x y < 10 ^ maxDigits := by
    rw [← hsquare]
    exact (pair_lt_sq hxFold hyFold).trans_le (pow_le_pow_left₀ (by omega) hsum 2)
  rw [hasNumeral_iff, ← Int.ofNat_lt, Int.natAbs_of_nonneg (place_nonneg x y)]
  exact_mod_cast hlt

theorem natAbs_sq_le_place (x y : Int) : x.natAbs ^ 2 ≤ (place x y).natAbs := by
  have htwo : fold x * (fold x + 1) ≤ 2 * place x y :=
    mul_succ_le_two_mul_pair (fold_nonneg x) (fold_nonneg y)
  have hsq : (x.natAbs : Int) ^ 2 ≤ place x y := by
    rw [fold] at htwo
    split at htwo
    · next h =>
      rw [Int.natAbs_of_nonneg h]
      nlinarith
    · rw [Int.natAbs_sq]
      nlinarith
  rw [← Int.ofNat_le, Int.natAbs_of_nonneg (place_nonneg x y)]
  exact_mod_cast hsq

theorem natAbs_lt_of_word {x : Int} (h : x.natAbs ≤ 2 ^ 63) : x.natAbs < 10 ^ componentDigits := by
  have hword : 2 ^ 63 < 10 ^ 20 := by decide
  exact (h.trans_lt hword).trans_le (Nat.pow_le_pow_right (by decide) (by decide))

/-- With one digit more the place cannot be written, whatever the other component is. -/
theorem not_hasNumeral_place_long (y : Int) :
    ¬ HasNumeral (place (10 ^ (componentDigits + 1)) y) := by
  have hten : (10 : Int).natAbs = 10 := rfl
  have hdigits : (componentDigits + 1) * 2 = maxDigits := rfl
  have hlong : ((10 : Int) ^ (componentDigits + 1)).natAbs ^ 2 = 10 ^ maxDigits := by
    rw [Int.natAbs_pow, hten, ← pow_mul, hdigits]
  rw [hasNumeral_iff, not_lt, ← hlong]
  exact natAbs_sq_le_place _ y

/-- Which pairs have keys, and two squares around the origin between which the limit runs. A pair
without one is refused for that as long as its place can be written. -/
theorem encode_domain (x y : Int) :
    ((∃ c, encode x y = .ok c) ↔
      ¬ (2 ^ 32 ≤ fold x + fold y ∨ fold x + fold y = 2 ^ 32 - 1 ∧ 2 ^ 31 ≤ fold y)) ∧
    (HasNumeral (place x y) → (KeyRefused (encode x y) ↔
      2 ^ 32 ≤ fold x + fold y ∨ fold x + fold y = 2 ^ 32 - 1 ∧ 2 ^ 31 ≤ fold y)) ∧
    (¬ HasNumeral (place x y) → encode x y = .error .tooManyDigits) ∧
    (x.natAbs < 10 ^ componentDigits → y.natAbs < 10 ^ componentDigits → HasNumeral (place x y)) ∧
    ((-2 ^ 30 ≤ x ∧ x < 2 ^ 30) → (-2 ^ 30 ≤ y ∧ y < 2 ^ 30) → ∃ c, encode x y = .ok c) ∧
    ((∃ c, encode x y = .ok c) →
      (-2 ^ 31 ≤ x ∧ x < 2 ^ 31) ∧ (-2 ^ 31 ≤ y ∧ y < 2 ^ 31)) := by
  refine ⟨exists_encode_iff, ?_, encode_of_not_hasNumeral, hasNumeral_place, ?_, ?_⟩
  · intro hnumeral
    rw [keyRefused_encode_iff, and_iff_left hnumeral]
    exact keyMax_lt_place_iff
  · intro hx hy
    apply exists_encode_of_lt
    · exact fold_lt_two_mul_iff.mpr hx
    · exact fold_lt_two_mul_iff.mpr hy
  · intro h
    obtain ⟨hx, hy⟩ := lt_of_exists_encode h
    exact ⟨fold_lt_two_mul_iff.mp hx, fold_lt_two_mul_iff.mp hy⟩

/-- The least number has a key as the first component but not as the second. -/
theorem encode_domain_least :
    (∃ c, encode (-2 ^ 31) 0 = .ok c) ∧ (-2 ^ 31 : Int) < 2 ^ 31 ∧
      KeyRefused (encode 0 (-2 ^ 31)) ∧ (∃ c, encode (-2 ^ 30) (2 ^ 30 - 1) = .ok c) ∧
      encode (10 ^ (componentDigits + 1)) 0 = .error .tooManyDigits := by
  have hleast : ∃ c, encode (-2 ^ 31) 0 = .ok c := by
    rw [(encode_domain _ _).1]
    decide
  have hnumeral : HasNumeral (place 0 (-2 ^ 31)) :=
    (encode_domain _ _).2.2.2.1 (natAbs_lt_of_word (by decide)) (natAbs_lt_of_word (by decide))
  have hsecond : KeyRefused (encode 0 (-2 ^ 31)) := by
    rw [(encode_domain _ _).2.1 hnumeral]
    decide
  exact ⟨hleast, ((encode_domain _ _).2.2.2.2.2 hleast).1.2, hsecond,
    (encode_domain _ _).2.2.2.2.1 (by decide) (by decide),
    (encode_domain _ _).2.2.1 (not_hasNumeral_place_long 0)⟩

/-- A pair far past the last diagonal, which is not refused for that. -/
theorem not_keyRefused_encode_long :
    2 ^ 32 ≤ fold (10 ^ (componentDigits + 1)) + fold 0 ∧
      encode (10 ^ (componentDigits + 1)) 0 = .error .tooManyDigits ∧
        ¬ KeyRefused (encode (10 ^ (componentDigits + 1)) 0) := by
  have hencode := encode_of_not_hasNumeral (not_hasNumeral_place_long 0)
  have hlarge : (10 : Int) ^ 10 ≤ 10 ^ (componentDigits + 1) :=
    pow_le_pow_right₀ (by decide) (by decide)
  refine ⟨?_, hencode, ?_⟩
  · generalize (10 : Int) ^ (componentDigits + 1) = x at hlarge ⊢
    rw [fold, if_pos (by omega)]
    simp only [fold]
    omega
  · rw [hencode, keyRefused_error]
    decide

end Key

end VoxelGrid
