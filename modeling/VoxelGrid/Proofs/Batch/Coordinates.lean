import VoxelGrid.Batch.Coordinates
import VoxelGrid.Proofs.Batch.Word
import VoxelGrid.Proofs.Layout.Split
import VoxelGrid.Proofs.Tensor.Words

/-! Addresses of arrays of words. Shifts and masks of words give the words of what shifts and masks
of the numbers give, so an array is addressed as its cells are, and a points array as its rows
are. -/

namespace VoxelGrid

theorem Input.toInt64_typed {type : ElementType} (h : type ≠ .object) (cells : Tensor Scalar) :
    (Input.typed type cells).toInt64 = .ok (cells.map Scalar.castInt64) := by
  rw [toInt64]
  exact h

namespace Word

theorem toInt_and (w mask : Int64) : (w &&& mask).toInt = maskBits w.toInt mask.toInt := by
  have hbits : (w &&& mask).toBitVec = BitVec.ofInt 64 (maskBits w.toInt mask.toInt) := by
    rw [ofInt_maskBits]
    change _ = BitVec.ofInt 64 w.toBitVec.toInt &&& BitVec.ofInt 64 mask.toBitVec.toInt
    rw [BitVec.ofInt_toInt, BitVec.ofInt_toInt, Int64.toBitVec_and]
  obtain ⟨hlow, hhigh⟩ := maskBits_bounds (n := 63) (Scalar.inInt64_toInt w)
    (Scalar.inInt64_toInt mask)
  rw [Int64.toInt, hbits]
  exact BitVec.toInt_ofInt_eq_self (by decide) hlow hhigh

/-- The machine takes the count modulo the width, which changes no count below it. -/
theorem toInt_shiftRight_of_lt (w : Int64) {count : Int64} (h : 0 ≤ count.toInt)
    (hlt : count.toInt < 64) : (w >>> count).toInt = w.toInt / 2 ^ count.toInt.toNat := by
  have hmod : (count.toBitVec.smod 64).toInt = count.toInt := by
    rw [BitVec.toInt_smod]
    exact Int.fmod_eq_of_lt h hlt
  have hcount : (count.toBitVec.smod 64).toNat = count.toInt.toNat := by
    have hcond := BitVec.toInt_eq_toNat_cond (count.toBitVec.smod 64)
    have hwidth := (count.toBitVec.smod 64).isLt
    split at hcond <;> omega
  rw [Int64.toInt, Int64.toBitVec_shiftRight, BitVec.toInt_sshiftRight']
  change w.toInt >>> (count.toBitVec.smod 64).toNat = _
  rw [hcount, Int.shiftRight_eq_div_pow]
  norm_cast

end Word

namespace Batch

theorem toInt_shiftRight (w : Int64) {count : Int64} (h : 0 ≤ count.toInt) :
    (shiftRight w count).toInt = w.toInt / 2 ^ count.toInt.toNat := by
  have hcount : 0 ≤ count ∧ count < 64 ↔ count.toInt < 64 := by
    rw [Word.nonneg_iff, Int64.lt_iff_toInt_lt]
    exact and_iff_right h
  have hneg : w < 0 ↔ w.toInt < 0 := Int64.lt_iff_toInt_lt
  rw [shiftRight]
  by_cases hlt : count.toInt < 64
  · rw [if_pos (hcount.mpr hlt), Word.toInt_shiftRight_of_lt w h hlt]
  · rw [if_neg (hcount.not.mpr hlt)]
    -- the extent is past every word, so only the sign is left of the quotient
    have hextent : (2 : Int) ^ 63 ≤ 2 ^ count.toInt.toNat :=
      pow_le_pow_right₀ (by decide) (by omega)
    have hlow := w.le_toInt
    have hhigh := w.toInt_lt
    split
    · next hw =>
      rw [Int.ediv_eq_neg_one_of_neg_of_le (hneg.mp hw) (by omega)]
      rfl
    · next hw =>
      rw [Int.ediv_eq_zero_of_lt (not_lt.mp (hneg.not.mp hw)) (by omega)]
      rfl

theorem words_eq_ok_iff {values : Triple Int} {ws : Triple Int64} :
    words values = .ok ws ↔ ∀ axis, (ws.get axis).toInt = values.get axis := by
  rw [words, Triple.traverse_eq_ok_iff]
  simp only [Scalar.int64OfInt_eq_ok_iff]

theorem exists_words (values : Triple Int) (h : ∀ axis, Scalar.InInt64 (values.get axis)) :
    ∃ ws, words values = .ok ws ∧ ∀ axis, (ws.get axis).toInt = values.get axis := by
  obtain ⟨x, hx, -⟩ := Scalar.exists_word_of_inInt64 (h .x)
  obtain ⟨y, hy, -⟩ := Scalar.exists_word_of_inInt64 (h .y)
  obtain ⟨z, hz, -⟩ := Scalar.exists_word_of_inInt64 (h .z)
  have hws : ∀ axis, ((⟨x, y, z⟩ : Triple Int64).get axis).toInt = values.get axis := by
    rintro (_ | _ | _) <;> assumption
  exact ⟨⟨x, y, z⟩, words_eq_ok_iff.mpr hws, hws⟩

end Batch

/-- The column of an axis in a points array. -/
def Axis.column : Axis → Nat
  | .x => 0
  | .y => 1
  | .z => 2

namespace Tensor

/-- The cells of an array of words are what an operation answers for the cells of another. -/
structure Cellwise (t r : Tensor Int64) (f : Int → Except Error Int) : Prop where
  shape : r.shape = t.shape
  cells : ∀ index w, t.get? index = some w →
    ∃ v, r.get? index = some v ∧ f w.toInt = .ok v.toInt

/-- A row of a points array holds the position. -/
def HasRow (t : Tensor Int64) (i : Nat) (p : Position) : Prop :=
  ∀ axis, (t.get? [i, axis.column]).map Int64.toInt = some (p.get axis)

theorem cellwise_map {t : Tensor Int64} {g : Int64 → Int64} {f : Int → Except Error Int}
    (h : ∀ w, f w.toInt = .ok (g w).toInt) : Cellwise t (t.map g) f := by
  refine ⟨rfl, fun index w hw => ⟨g w, ?_, h w⟩⟩
  rw [get?_map, hw]
  rfl

variable {points : Tensor Int64} {n i : Nat}

theorem contains_column (h : points.shape = [n, 3]) (hi : i < n) (axis : Axis) :
    points.shape.Contains [i, axis.column] := by
  rw [h]
  exact ⟨hi, by cases axis <;> decide, trivial⟩

theorem exists_hasRow (h : points.shape = [n, 3]) (hi : i < n) : ∃ p, points.HasRow i p := by
  obtain ⟨x, hx⟩ := exists_get? (contains_column h hi .x)
  obtain ⟨y, hy⟩ := exists_get? (contains_column h hi .y)
  obtain ⟨z, hz⟩ := exists_get? (contains_column h hi .z)
  refine ⟨⟨x.toInt, y.toInt, z.toInt⟩, ?_⟩
  rintro (_ | _ | _)
  · rw [hx]; rfl
  · rw [hy]; rfl
  · rw [hz]; rfl

theorem get?_mapColumns (h : points.shape = [n, 3]) (hi : i < n) (f : Int64 → Int64 → Int64)
    (parameters : Triple Int64) (axis : Axis) :
    (Batch.mapColumns f parameters points).get? [i, axis.column] =
      (points.get? [i, axis.column]).map (f · (parameters.get axis)) := by
  have hcontains := contains_column h hi axis
  have hoffset : points.shape.offset [i, axis.column] = 3 * i + axis.column := by
    rw [h]
    simp only [Shape.offset, Shape.size]
    omega
  have hparameter : parameters.toList.getD ((3 * i + axis.column) % 3) 0 = parameters.get axis := by
    rw [Nat.mul_add_mod]
    cases axis <;> rfl
  have hshape : (Batch.mapColumns f parameters points).shape = points.shape := rfl
  rw [get?_of_contains (hshape ▸ hcontains), get?_of_contains hcontains, hshape, hoffset]
  simp only [Batch.mapColumns, List.getElem?_mapIdx, hparameter]

theorem HasRow.mapColumns {p q : Position} (hrow : points.HasRow i p) (h : points.shape = [n, 3])
    (hi : i < n) {f : Int64 → Int64 → Int64} {parameters : Triple Int64}
    (hq : ∀ axis w, w.toInt = p.get axis → (f w (parameters.get axis)).toInt = q.get axis) :
    (Batch.mapColumns f parameters points).HasRow i q := by
  intro axis
  obtain ⟨w, hget, hw⟩ := Option.map_eq_some_iff.mp (hrow axis)
  rw [get?_mapColumns h hi, hget]
  exact congrArg some (hq axis w hw)

end Tensor

namespace Batch

open Tensor

/-- Every row of a points array is addressed as a position is split. -/
def SplitsRows (points : Tensor Int64) (n : Nat) (l : Layout) : Prop :=
  ∃ chunks blocks, (Input.ofInt64 points).chunkPositions l = .ok chunks ∧
    (Input.ofInt64 points).blockPositions l = .ok blocks ∧
      chunks.shape = [n, 3] ∧ blocks.shape = [n, 3] ∧
        ∀ i < n, ∃ p a, points.HasRow i p ∧ l.split p = .ok a ∧
          chunks.HasRow i a.chunk ∧ blocks.HasRow i a.block

variable {l : Layout} {points : Tensor Int64} {n : Nat}

theorem chunkPositions_of_toInt64 {input : Input} (h : input.toInt64 = .ok points) (l : Layout) :
    input.chunkPositions l = chunkPositions points l := by
  rw [Input.chunkPositions, h]
  rfl

theorem blockPositions_of_toInt64 {input : Input} (h : input.toInt64 = .ok points) (l : Layout) :
    input.blockPositions l = blockPositions points l := by
  rw [Input.blockPositions, h]
  rfl

theorem checkPoints_of_shape (h : points.shape = [n, 3]) : checkPoints points = .ok () := by
  rw [checkPoints, h]
  rfl

theorem checkPoints_of_ne (h : ∀ n, points.shape ≠ [n, 3]) :
    checkPoints points = .error (.notPoints points.shape) := by
  rw [checkPoints]
  split
  · next hshape => exact absurd hshape (h _)
  · rfl

theorem two_pow_inInt64 {power : Int} (h : 0 ≤ power ∧ power ≤ 63) :
    Scalar.InInt64 (2 ^ power.toNat - 1) := by
  have hpos : (0 : Int) < 2 ^ power.toNat := Int.pow_pos (by decide)
  have hle : (2 : Int) ^ power.toNat ≤ 2 ^ 63 := pow_le_pow_right₀ (by decide) (by omega)
  constructor <;> omega

theorem chunkPositions_eq_ok (h : points.shape = [n, 3]) {powers : Triple Int64}
    (hpowers : words l.powers = .ok powers) :
    chunkPositions points l = .ok (mapColumns shiftRight powers points) := by
  rw [chunkPositions, checkPoints_of_shape h, hpowers]
  rfl

theorem blockPositions_of_mask (h : points.shape = [n, 3]) {maskX maskZ : Int}
    (hx : Layout.mask l.powers.x = .ok maskX) (hz : Layout.mask l.powers.z = .ok maskZ) :
    blockPositions points l =
      (words ⟨maskX, -1, maskZ⟩).map fun masks => mapColumns (· &&& ·) masks points := by
  rw [blockPositions, checkPoints_of_shape h, hx, hz]
  rfl

/-- The horizontal masks are words and take the remainders; the vertical one keeps every digit. -/
theorem blockPositions_eq_ok (h : points.shape = [n, 3])
    (hx : 0 ≤ l.powers.x ∧ l.powers.x ≤ 63) (hz : 0 ≤ l.powers.z ∧ l.powers.z ≤ 63) :
    ∃ masks, blockPositions points l = .ok (mapColumns (· &&& ·) masks points) ∧
      ∀ axis (w : Int64), (w &&& masks.get axis).toInt =
        (⟨w.toInt % l.extents.x, w.toInt, w.toInt % l.extents.z⟩ : Position).get axis := by
  obtain ⟨masks, hmasks, hmasksInt⟩ :=
    exists_words ⟨2 ^ l.powers.x.toNat - 1, -1, 2 ^ l.powers.z.toNat - 1⟩ (by
      rintro (_ | _ | _)
      · exact two_pow_inInt64 hx
      · change Scalar.InInt64 (-1)
        decide
      · exact two_pow_inInt64 hz)
  refine ⟨masks, ?_, fun axis w => ?_⟩
  · rw [blockPositions_of_mask h (Layout.mask_of_nonneg hx.1) (Layout.mask_of_nonneg hz.1), hmasks]
    rfl
  · rw [Word.toInt_and, hmasksInt]
    cases axis with
    | x => exact maskBits_two_pow_sub_one ..
    | y => exact maskBits_neg_one _
    | z => exact maskBits_two_pow_sub_one ..

theorem splitsRows_of_shape (h : points.shape = [n, 3])
    (hl : ∀ axis, 0 ≤ l.powers.get axis ∧ l.powers.get axis ≤ 63) : SplitsRows points n l := by
  have hnonneg : l.NonNegative := fun axis => (hl axis).1
  obtain ⟨powers, hpowers, hpowersInt⟩ := exists_words l.powers fun axis => by
    have := hl axis
    constructor <;> omega
  obtain ⟨masks, hblocks, hmasks⟩ := blockPositions_eq_ok h (hl .x) (hl .z)
  have hinput : (Input.ofInt64 points).toInt64 = .ok points := Input.toInt64_ofInt64 points
  refine ⟨_, _, (chunkPositions_of_toInt64 hinput l).trans (chunkPositions_eq_ok h hpowers),
    (blockPositions_of_toInt64 hinput l).trans hblocks, h, h, fun i hi => ?_⟩
  obtain ⟨p, hrow⟩ := exists_hasRow h hi
  refine ⟨p, _, hrow, Layout.split_of_nonNegative hnonneg p, hrow.mapColumns h hi ?_,
    hrow.mapColumns h hi ?_⟩
  · intro axis w hw
    have hpower := hpowersInt axis
    rw [toInt_shiftRight w (hpower ▸ hnonneg axis), hw, hpower]
    cases axis <;> rfl
  · intro axis w hw
    rw [hmasks, hw]
    cases axis <;> rfl

theorem chunkIndices_cellwise (coords : Tensor Int64) {power : Int} (h : 0 ≤ power)
    (hlt : power < 2 ^ 63) : ∃ r, (Input.ofInt64 coords).chunkIndices power = .ok r ∧
      Cellwise coords r (chunkIndex · power) := by
  obtain ⟨count, rfl, hword⟩ := Scalar.exists_word_of_inInt64 (n := power) ⟨by omega, hlt⟩
  refine ⟨Batch.chunkIndices coords count, ?_, cellwise_map fun w => ?_⟩
  · rw [Input.chunkIndices, Input.toInt64_ofInt64, hword]
    rfl
  · rw [chunkIndex_of_nonneg _ h, toInt_shiftRight w h]

theorem localOffsets_ofInt64 (coords : Tensor Int64) (mask : Int64) :
    (Input.ofInt64 coords).localOffsets mask.toInt = .ok (localOffsets coords mask) := by
  rw [Input.localOffsets, Input.toInt64_ofInt64, Scalar.int64OfInt_eq_ok_iff.mpr rfl]
  rfl

theorem cellwise_localOffsets (coords : Tensor Int64) (mask : Int64) :
    Cellwise coords (localOffsets coords mask) fun w => .ok (localOffset w mask.toInt) := by
  apply cellwise_map
  intro w
  rw [localOffset, Word.toInt_and]

theorem localOffsets_cellwise (coords : Tensor Int64) {mask : Int} (h : Scalar.InInt64 mask) :
    ∃ r, (Input.ofInt64 coords).localOffsets mask = .ok r ∧
      Cellwise coords r fun w => .ok (localOffset w mask) := by
  obtain ⟨word, rfl, -⟩ := Scalar.exists_word_of_inInt64 h
  exact ⟨_, localOffsets_ofInt64 coords word, cellwise_localOffsets coords word⟩

theorem positions_of_not_points {input : Input} (hinput : input.toInt64 = .ok points)
    (h : ∀ n, points.shape ≠ [n, 3]) (l : Layout) :
    input.chunkPositions l = .error (.notPoints points.shape) ∧
      input.blockPositions l = .error (.notPoints points.shape) := by
  have hcheck := checkPoints_of_ne h
  constructor
  · rw [chunkPositions_of_toInt64 hinput, chunkPositions, hcheck]
    rfl
  · rw [blockPositions_of_toInt64 hinput, blockPositions, hcheck]
    rfl

theorem positions_of_error {input : Input} {e : Error} (h : input.toInt64 = .error e) (l : Layout) :
    input.chunkPositions l = .error e ∧ input.blockPositions l = .error e := by
  constructor
  · rw [Input.chunkPositions, h]
    rfl
  · rw [Input.blockPositions, h]
    rfl

/-- Arrays of words are addressed as their rows and cells are. Every array of numbers converts to
one of words, what converts to one that is not of points has no positions, and what does not convert
is refused for that. -/
theorem coordinates_cellwise :
    (∀ (points : Tensor Int64) (n : Nat) (l : Layout), points.shape = [n, 3] →
        (∀ axis, 0 ≤ l.powers.get axis ∧ l.powers.get axis ≤ 63) → SplitsRows points n l) ∧
      (∀ (coords : Tensor Int64) (power : Int), 0 ≤ power → power < 2 ^ 63 →
        ∃ r, (Input.ofInt64 coords).chunkIndices power = .ok r ∧
          Cellwise coords r (chunkIndex · power)) ∧
      (∀ (coords : Tensor Int64) (mask : Int), -2 ^ 63 ≤ mask → mask < 2 ^ 63 →
        ∃ r, (Input.ofInt64 coords).localOffsets mask = .ok r ∧
          Cellwise coords r fun w => .ok (localOffset w mask)) ∧
      (∀ (type : ElementType) (cells : Tensor Scalar), type ≠ .object →
        ∃ points, (Input.typed type cells).toInt64 = .ok points ∧ points.shape = cells.shape) ∧
      (∀ (input : Input) (points : Tensor Int64) (l : Layout), input.toInt64 = .ok points →
        (∀ n, points.shape ≠ [n, 3]) →
          input.chunkPositions l = .error (.notPoints points.shape) ∧
            input.blockPositions l = .error (.notPoints points.shape)) ∧
      ∀ (input : Input) (e : Error) (l : Layout), input.toInt64 = .error e →
        input.chunkPositions l = .error e ∧ input.blockPositions l = .error e := by
  refine ⟨?_, ?_, ?_, ?_, ?_, ?_⟩
  · intro points n l h hl
    exact splitsRows_of_shape h hl
  · intro coords power h hlt
    exact chunkIndices_cellwise coords h hlt
  · intro coords mask hlow hhigh
    exact localOffsets_cellwise coords ⟨hlow, hhigh⟩
  · intro type cells h
    exact ⟨_, Input.toInt64_typed h cells, rfl⟩
  · intro input points l hinput h
    exact positions_of_not_points hinput h l
  · intro input e l h
    exact positions_of_error h l

/-- The lowest word, under the largest exponent, a count past the width and a negative mask, a row of
four cells, and a cell that is no number. -/
theorem coordinates_cellwise_lowest :
    SplitsRows ⟨[1, 3], [-9223372036854775808, -1, 63], rfl⟩ 1 ⟨63, 0, 6⟩ ∧
      (∃ r, (Input.ofInt64 ⟨[1], [-9223372036854775808], rfl⟩).chunkIndices 70 = .ok r ∧
        Cellwise ⟨[1], [-9223372036854775808], rfl⟩ r (chunkIndex · 70)) ∧
      (∃ r, (Input.ofInt64 ⟨[1], [-9223372036854775808], rfl⟩).localOffsets (-1) = .ok r ∧
        Cellwise ⟨[1], [-9223372036854775808], rfl⟩ r fun w => .ok (localOffset w (-1))) ∧
      (Input.ofInt64 ⟨[1, 4], [0, 0, 0, 0], rfl⟩).chunkPositions ⟨0, 0, 0⟩ =
        .error (.notPoints [1, 4]) ∧
      (Input.typed .object ⟨[1], [.null], rfl⟩).chunkPositions ⟨0, 0, 0⟩ = .error .missingNumber := by
  obtain ⟨hrows, hindices, hoffsets, -, hrefused, herror⟩ := coordinates_cellwise
  refine ⟨hrows _ 1 _ rfl (by rintro (_ | _ | _) <;> decide),
    hindices _ 70 (by decide) (by decide), hoffsets _ (-1) (by decide) (by decide), ?_, ?_⟩
  · exact (hrefused _ _ ⟨0, 0, 0⟩ (Input.toInt64_ofInt64 ⟨[1, 4], [0, 0, 0, 0], rfl⟩) (by simp)).1
  · exact (herror _ .missingNumber ⟨0, 0, 0⟩ rfl).1

end Batch

end VoxelGrid
