import VoxelGrid.Key.Column
import VoxelGrid.Proofs.Key.Domain
import VoxelGrid.Proofs.Layout.Split

/-! Keys of chunk columns. Under a layout without negative exponents the key over a position is that
of the two floors of its coordinates, so that columns and keys determine each other. -/

namespace VoxelGrid

namespace Key

theorem encode_injective {x y x' y' c : Int} (h : encode x y = .ok c) (h' : encode x' y' = .ok c) :
    x = x' ∧ y = y' := by
  have hdecode : decode c = .ok (x, y) := decode_eq_ok_iff.mpr h
  rw [decode_eq_ok_iff.mpr h'] at hdecode
  cases hdecode
  exact ⟨rfl, rfl⟩

theorem isKeyRange_of_encode {x y : Int} {e : Error} (hnumeral : HasNumeral (place x y))
    (h : encode x y = .error e) : e.isKeyRange = true := by
  have hrefused : KeyRefused (encode x y) :=
    keyRefused_encode_iff.mpr ⟨exists_encode_error_iff.mp ⟨e, h⟩, hnumeral⟩
  rwa [h, keyRefused_error] at hrefused

end Key

namespace Layout

variable {l : Layout}

/-- The vertical exponent has no part in the key, so only the other two must not be negative. -/
theorem columnKey_of_nonneg (hx : 0 ≤ l.powers.x) (hz : 0 ≤ l.powers.z) (x z : Int) :
    l.columnKey x z = Key.encode (x / l.extents.x) (z / l.extents.z) := by
  rw [columnKey, chunkIndex_of_nonneg x hx, chunkIndex_of_nonneg z hz]
  rfl

theorem columnKey_of_nonNegative (h : l.NonNegative) (x z : Int) :
    l.columnKey x z = Key.encode (x / l.extents.x) (z / l.extents.z) :=
  columnKey_of_nonneg (h .x) (h .z) x z

theorem column_of_columnKey (h : l.NonNegative) {x z key : Int} (hkey : l.columnKey x z = .ok key) :
    Key.column key = .ok (x / l.extents.x, z / l.extents.z) := by
  rw [columnKey_of_nonNegative h] at hkey
  exact Key.decode_eq_ok_iff.mpr hkey

theorem columnKey_eq_iff (h : l.NonNegative) {x z x' z' key key' : Int}
    (hkey : l.columnKey x z = .ok key) (hkey' : l.columnKey x' z' = .ok key') :
    key = key' ↔ x / l.extents.x = x' / l.extents.x ∧ z / l.extents.z = z' / l.extents.z := by
  rw [columnKey_of_nonNegative h] at hkey hkey'
  constructor
  · rintro rfl
    exact Key.encode_injective hkey hkey'
  · rintro ⟨hx, hz⟩
    rw [hx, hz, hkey'] at hkey
    cases hkey
    rfl

/-- The key over a position gives back the horizontal place of its chunk, is refused just where that
place has no key and for the same reason, which is the range of keys as long as the coordinates do not
have too many digits, and is shared by the positions of one column and no other. -/
theorem columnKey_identifies (h : l.NonNegative) :
    l.sizes = .ok l.extents ∧
    (∀ x y z, ∃ a, l.split ⟨x, y, z⟩ = .ok a ∧
      (∀ key, l.columnKey x z = .ok key → Key.column key = .ok (a.chunk.x, a.chunk.z)) ∧
      (∀ e, l.columnKey x z = .error e ↔ Key.encode a.chunk.x a.chunk.z = .error e) ∧
      (HasNumeral (Key.place a.chunk.x a.chunk.z) →
        ∀ e, l.columnKey x z = .error e → e.isKeyRange = true) ∧
      (¬ HasNumeral (Key.place a.chunk.x a.chunk.z) → l.columnKey x z = .error .tooManyDigits) ∧
      (x.natAbs < 10 ^ Key.componentDigits → z.natAbs < 10 ^ Key.componentDigits →
        HasNumeral (Key.place a.chunk.x a.chunk.z))) ∧
    ∀ x z x' z' key key', l.columnKey x z = .ok key → l.columnKey x' z' = .ok key' →
      (key = key' ↔ x.fdiv l.extents.x = x'.fdiv l.extents.x ∧
        z.fdiv l.extents.z = z'.fdiv l.extents.z) := by
  refine ⟨sizes_of_nonNegative h, ?_, ?_⟩
  · intro x y z
    refine ⟨_, split_of_nonNegative h _, fun key hkey => column_of_columnKey h hkey, ?_, ?_, ?_, ?_⟩
    · intro e
      rw [columnKey_of_nonNegative h]
    · intro hnumeral e he
      rw [columnKey_of_nonNegative h] at he
      exact Key.isKeyRange_of_encode hnumeral he
    · intro hlong
      rw [columnKey_of_nonNegative h]
      exact Key.encode_of_not_hasNumeral hlong
    · intro hx hz
      -- a chunk is no farther from the origin than its blocks
      exact Key.hasNumeral_place ((Int.natAbs_ediv_le_natAbs x _).trans_lt hx)
        ((Int.natAbs_ediv_le_natAbs z _).trans_lt hz)
  · intro x z x' z' key key' hkey hkey'
    have hfx (w : Int) : w.fdiv l.extents.x = w / l.extents.x := l.fdiv_extents .x w
    have hfz (w : Int) : w.fdiv l.extents.z = w / l.extents.z := l.fdiv_extents .z w
    rw [hfx, hfx, hfz, hfz]
    exact columnKey_eq_iff h hkey hkey'

/-- A coordinate whose column is too far away for its key to be written. -/
def longCoordinate : Int := 10 ^ (Key.componentDigits + 1) * 32

theorem longCoordinate_ediv :
    longCoordinate / standard.extents.x = 10 ^ (Key.componentDigits + 1) :=
  Int.mul_ediv_cancel _ (by decide)

/-- Opposite corners of a column below zero, a block past it, a chunk that has no key, and
one whose key cannot be written. -/
theorem columnKey_identifies_standard :
    standard.NonNegative ∧ standard.columnKey (-33) 0 = .ok 6 ∧
      standard.columnKey (-64) 31 = .ok 6 ∧ standard.columnKey (-65) 0 = .ok 15 ∧
      Key.column 6 = .ok (-2, 0) ∧ (-33 : Int).fdiv 32 = (-64 : Int).fdiv 32 ∧
      ¬((-33 : Int).fdiv 32 = (-65 : Int).fdiv 32 ∧ (0 : Int).fdiv 32 = (0 : Int).fdiv 32) ∧
      (∃ e, standard.columnKey (2 ^ 36) 0 = .error e ∧ Key.encode (2 ^ 31) 0 = .error e ∧
        e.isKeyRange = true) ∧
      standard.columnKey longCoordinate 0 = .error .tooManyDigits := by
  have h : standard.NonNegative := by rintro (_ | _ | _) <;> decide
  obtain ⟨-, hcolumn, hshared⟩ := columnKey_identifies h
  have hlast : standard.columnKey (-33) 0 = .ok 6 := rfl
  have hfirst : standard.columnKey (-64) 31 = .ok 6 := rfl
  have hpast : standard.columnKey (-65) 0 = .ok 15 := rfl
  have hback : Key.column 6 = .ok (-2, 0) := by
    obtain ⟨a, hsplit, hkey, -⟩ := hcolumn (-33) 0 0
    cases hsplit
    exact hkey 6 hlast
  have hrefused : ∃ e, standard.columnKey (2 ^ 36) 0 = .error e ∧
      Key.encode (2 ^ 31) 0 = .error e ∧ e.isKeyRange = true := by
    obtain ⟨a, hsplit, -, herror, hrange, -, hnumeral⟩ := hcolumn (2 ^ 36) 0 0
    cases hsplit
    have hwritten := hnumeral (Key.natAbs_lt_of_word (by decide)) (Key.natAbs_lt_of_word (by decide))
    obtain ⟨e, he⟩ : ∃ e, Key.encode (2 ^ 31) 0 = .error e :=
      Key.exists_encode_error_iff.mpr (by decide)
    exact ⟨e, (herror e).mpr he, he, hrange hwritten e ((herror e).mpr he)⟩
  have hlong : standard.columnKey longCoordinate 0 = .error .tooManyDigits := by
    obtain ⟨a, hsplit, -, -, -, htooLong, -⟩ := hcolumn longCoordinate 0 0
    rw [split_of_nonNegative h] at hsplit
    cases hsplit
    refine htooLong ?_
    rw [longCoordinate_ediv]
    exact Key.not_hasNumeral_place_long _
  exact ⟨h, hlast, hfirst, hpast, hback, ((hshared _ _ _ _ _ _ hlast hfirst).mp rfl).1,
    (hshared _ _ _ _ _ _ hlast hpast).not.mp (by decide), hrefused, hlong⟩

/-- The chunk has no key, but the refusal is not for the range of keys. -/
theorem not_keyRefused_columnKey_long :
    standard.NonNegative ∧
      (∃ e, Key.encode (longCoordinate / standard.extents.x) 0 = .error e) ∧
        ¬ KeyRefused (standard.columnKey longCoordinate 0) := by
  have h : standard.NonNegative := by rintro (_ | _ | _) <;> decide
  have hencode : Key.encode (longCoordinate / standard.extents.x) 0 = .error .tooManyDigits := by
    rw [longCoordinate_ediv]
    exact Key.encode_of_not_hasNumeral (Key.not_hasNumeral_place_long 0)
  refine ⟨h, ⟨_, hencode⟩, ?_⟩
  rw [columnKey_of_nonNegative h, Int.zero_ediv, hencode, keyRefused_error]
  decide

end Layout

end VoxelGrid
