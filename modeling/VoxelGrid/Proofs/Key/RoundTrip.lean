import VoxelGrid.Proofs.Key.Diagonal
import VoxelGrid.Proofs.Key.Range

/-! Encoding and decoding undo each other: the keys are exactly the places of the pairs whose place
is not past the largest key. What is refused is refused for the range of keys as long as the number
that has no part in it can be written. -/

namespace VoxelGrid

theorem ZigZag.unfold_eq_iff {x y : Int} (h : 0 ≤ y) : unfold y = x ↔ y = fold x :=
  ⟨fun e => e ▸ (fold_unfold h).symm, fun e => e ▸ unfold_fold x⟩

namespace Key

open Diagonal ZigZag

/-- The place of a signed pair, whether or not it is a key. -/
def place (x y : Int) : Int := pair (fold x) (fold y)

theorem place_nonneg (x y : Int) : 0 ≤ place x y := pair_nonneg (fold_nonneg x) (fold_nonneg y)

/-- The place is no smaller than the components, so it is the last of them to be written. -/
theorem forall_integers_keyTooLarge_iff (x y : Int) :
    (∀ n ∈ (Error.keyTooLarge (fold x) (fold y) (place x y)).integers, HasNumeral n) ↔
      HasNumeral (place x y) := by
  have hx := fold_nonneg x
  have hy := fold_nonneg y
  have hsum : fold x + fold y ≤ place x y := add_le_pair hx hy
  simp only [Error.integers, List.forall_mem_cons, List.not_mem_nil, false_imp_iff, implies_true,
    and_true]
  refine ⟨fun h => h.2.2, fun h => ⟨?_, ?_, h⟩⟩
  · exact h.of_natAbs_le (by omega)
  · exact h.of_natAbs_le (by omega)

theorem encode_eq (x y : Int) :
    encode x y = if keyMax < place x y then
        .error (Error.keyTooLarge (fold x) (fold y) (place x y)).raised
      else .ok (place x y) := by
  have hx := fold_nonneg x
  have hy := fold_nonneg y
  rw [encode, ofNonNegative, if_neg (by omega), place]

theorem encode_eq_ok_iff {x y c : Int} : encode x y = .ok c ↔ place x y = c ∧ c ≤ keyMax := by
  rw [encode_eq]
  split
  · simp only [reduceCtorEq, false_iff, not_and]
    omega
  · simp only [Except.ok.injEq]
    omega

theorem natAbs_le_of_encode {x y c : Int} (h : encode x y = .ok c) :
    (x.natAbs : Int) ≤ c ∧ (y.natAbs : Int) ≤ c := by
  obtain ⟨rfl, -⟩ := encode_eq_ok_iff.mp h
  have hsum : fold x + fold y ≤ place x y := add_le_pair (fold_nonneg x) (fold_nonneg y)
  have hfold (w : Int) : (w.natAbs : Int) ≤ fold w := by
    rw [fold]
    split <;> omega
  have hx := hfold x
  have hy := hfold y
  omega

theorem isKey_of_encode {x y c : Int} (h : encode x y = .ok c) : IsKey c := by
  obtain ⟨rfl, hle⟩ := encode_eq_ok_iff.mp h
  exact ⟨place_nonneg x y, hle⟩

/-- The components of a key are no larger than it is. -/
theorem hasNumeral_of_encode {x y c : Int} (h : encode x y = .ok c) :
    HasNumeral x ∧ HasNumeral y := by
  obtain ⟨hx, hy⟩ := natAbs_le_of_encode h
  have hnumeral := (isKey_of_encode h).hasNumeral
  exact ⟨hnumeral.of_natAbs_le (by omega), hnumeral.of_natAbs_le (by omega)⟩

theorem exists_encode_error_iff {x y : Int} :
    (∃ e, encode x y = .error e) ↔ keyMax < place x y := by
  rw [encode_eq]
  split <;> simp [*]

theorem keyRefused_encode_iff {x y : Int} :
    KeyRefused (encode x y) ↔ keyMax < place x y ∧ HasNumeral (place x y) := by
  rw [encode_eq]
  split
  · next h =>
    rw [keyRefused_error, Error.isKeyRange_raised_iff, forall_integers_keyTooLarge_iff]
    exact and_congr_left' (iff_of_true rfl h)
  · next h => simp [h]

theorem encode_of_not_hasNumeral {x y : Int} (h : ¬ HasNumeral (place x y)) :
    encode x y = .error .tooManyDigits := by
  have hlarge : keyMax < place x y := by
    by_contra hle
    exact h (IsKey.hasNumeral ⟨place_nonneg x y, not_lt.mp hle⟩)
  rw [encode_eq, if_pos hlarge, Error.raised_of_not]
  rwa [forall_integers_keyTooLarge_iff]

theorem decode_of_not_isKey {c : Int} (h : ¬ IsKey c) :
    decode c = .error (Error.keyOutOfRange c).raised :=
  if_pos (not_isKey_iff.mp h)

theorem integers_keyOutOfRange (c : Int) : (Error.keyOutOfRange c).integers = [c] := rfl

theorem decode_of_isKey {c : Int} (h : IsKey c) :
    decode c = (unpair c).map fun p => (unfold p.1, unfold p.2) :=
  if_neg (not_isKey_iff.not_right.mp h)

theorem decode_eq_ok_iff {x y c : Int} : decode c = .ok (x, y) ↔ encode x y = .ok c := by
  rw [encode_eq_ok_iff]
  by_cases h : IsKey c
  · obtain ⟨first, second, h1, h2, hunpair⟩ := exists_unpair h.1
    -- equal places have equal components, since both are what `unpair` gives
    have hplace : place x y = c ↔ first = fold x ∧ second = fold y := by
      constructor
      · intro hc
        have hfold := unpair_eq_ok_iff.mpr ⟨fold_nonneg x, fold_nonneg y, hc⟩
        rw [hunpair] at hfold
        cases hfold
        exact ⟨rfl, rfl⟩
      · rintro ⟨rfl, rfl⟩
        exact (unpair_eq_ok_iff.mp hunpair).2.2
    rw [decode_of_isKey h, hunpair, hplace, ← unfold_eq_iff h1, ← unfold_eq_iff h2]
    simp [Except.map, h.2]
  · rw [decode_of_not_isKey h]
    simp only [reduceCtorEq, false_iff, not_and]
    rintro rfl hle
    exact h ⟨place_nonneg x y, hle⟩

theorem exists_decode {c : Int} (h : IsKey c) : ∃ x y, decode c = .ok (x, y) := by
  obtain ⟨first, second, -, -, hunpair⟩ := exists_unpair h.1
  exact ⟨unfold first, unfold second, by rw [decode_of_isKey h, hunpair]; rfl⟩

theorem keyRefused_decode_iff {c : Int} : KeyRefused (decode c) ↔ ¬ IsKey c ∧ HasNumeral c := by
  by_cases h : IsKey c
  · obtain ⟨x, y, hdecode⟩ := exists_decode h
    simp [hdecode, h]
  · rw [decode_of_not_isKey h, keyRefused_error, Error.isKeyRange_raised_iff,
      Error.forall_integers_iff (integers_keyOutOfRange c)]
    exact and_congr_left' (iff_of_true rfl h)

theorem decode_of_not_hasNumeral {c : Int} (h : ¬ HasNumeral c) :
    decode c = .error .tooManyDigits := by
  rw [decode_of_not_isKey fun hkey => h hkey.hasNumeral,
    Error.raised_of_not_hasNumeral (integers_keyOutOfRange c) h]

/-- What is encoded is a key that decodes to the pair, and exactly the keys are decoded, to a pair
that encodes to the key. A number that cannot be written is refused for that and not for the range of
keys. -/
theorem encode_decode_inverse :
    keyMax = 2 ^ 63 - 1 ∧
    (∀ x y c : Int, encode x y = .ok c → (0 ≤ c ∧ c ≤ keyMax) ∧ decode c = .ok (x, y)) ∧
    (∀ c : Int, HasNumeral c → (KeyRefused (decode c) ↔ c < 0 ∨ keyMax < c)) ∧
    (∀ c : Int, ¬ HasNumeral c → (c < 0 ∨ keyMax < c) ∧ decode c = .error .tooManyDigits) ∧
    ∀ c : Int, ¬ (c < 0 ∨ keyMax < c) → ∃ x y, decode c = .ok (x, y) ∧ encode x y = .ok c := by
  refine ⟨keyMax_eq, ?_, ?_, ?_, ?_⟩
  · intro x y c h
    exact ⟨isKey_of_encode h, decode_eq_ok_iff.mpr h⟩
  · intro c hnumeral
    rw [keyRefused_decode_iff, and_iff_left hnumeral, not_isKey_iff]
  · intro c hlong
    exact ⟨not_isKey_iff.mp fun hkey => hlong hkey.hasNumeral, decode_of_not_hasNumeral hlong⟩
  · intro c h
    obtain ⟨x, y, hdecode⟩ := exists_decode (not_isKey_iff.not_right.mpr h)
    exact ⟨x, y, hdecode, decode_eq_ok_iff.mp hdecode⟩

/-- The last key belongs to the inside of the last diagonal. The number before the first key can be
written. -/
theorem encode_decode_inverse_keyMax :
    encode 1073741824 (-1073741824) = .ok keyMax ∧
      decode keyMax = .ok (1073741824, -1073741824) ∧
      (∃ x y, decode keyMax = .ok (x, y) ∧ encode x y = .ok keyMax) ∧
      KeyRefused (decode (-1)) ∧ decode (10 ^ maxDigits) = .error .tooManyDigits := by
  have h : encode 1073741824 (-1073741824) = .ok keyMax := by
    rw [encode_eq_ok_iff]
    decide
  have hkey : ¬ (keyMax < 0 ∨ keyMax < keyMax) := by decide
  have hone : HasNumeral (-1) := hasNumeral_keyMax.of_natAbs_le (by decide)
  obtain ⟨-, hencode, hrefused, hlong, hdecode⟩ := encode_decode_inverse
  refine ⟨h, (hencode _ _ _ h).2, hdecode _ hkey, ?_, (hlong _ not_hasNumeral_pow).2⟩
  rw [hrefused _ hone]
  decide

/-- The first number that cannot be written is past the keys, but is not refused for that. -/
theorem not_keyRefused_decode_long :
    ((10 : Int) ^ maxDigits < 0 ∨ keyMax < 10 ^ maxDigits) ∧
      decode (10 ^ maxDigits) = .error .tooManyDigits ∧ ¬ KeyRefused (decode (10 ^ maxDigits)) := by
  have hlong : ¬ HasNumeral (10 ^ maxDigits) := not_hasNumeral_pow
  have hdecode := decode_of_not_hasNumeral hlong
  refine ⟨not_isKey_iff.mp fun hkey => hlong hkey.hasNumeral, hdecode, ?_⟩
  rw [hdecode, keyRefused_error]
  decide

end Key

end VoxelGrid
