import VoxelGrid.Proofs.Batch.Word
import VoxelGrid.Proofs.Key.RoundTrip
import VoxelGrid.Proofs.Tensor.Words

/-! Decoding of arrays of keys. An estimate of the diagonal that is at most one off is clamped to
the last diagonal, moved down once and moved up once, and is then exact. -/

namespace VoxelGrid.Batch

open Diagonal Word

/-- The estimate is at most one off the diagonal on which the number lies. -/
def NearDiagonal (estimate : UInt64) (c : Nat) : Prop :=
  ∃ d, IsIndex c d ∧ estimate.toNat ≤ d + 1 ∧ d ≤ estimate.toNat + 1

structure StepDownFits (j c : UInt64) : Prop where
  triangle : TriangleFits j
  pred : c < Batch.triangle j → SubFits j 1

structure StepUpFits (j c : UInt64) : Prop where
  triangle : TriangleFits j
  last : AddFits (Batch.triangle j) j
  next : AddFits (Batch.triangle j + j) 1
  succ : Batch.triangle j + j + 1 ≤ c → AddFits j 1

/-- No operation on the way from a key to its two folded words wraps where its result is used. -/
structure UnpairFits (estimate c : UInt64) : Prop where
  down : StepDownFits (clamp estimate) c
  up : StepUpFits (stepDown (clamp estimate) c) c
  triangle : TriangleFits (correct estimate c)
  second : SubFits c (Batch.triangle (correct estimate c))
  first : SubFits (correct estimate c) (c - Batch.triangle (correct estimate c))

theorem toNat_clamp (estimate : UInt64) :
    (clamp estimate).toNat = min estimate.toNat (2 ^ 32 - 1) := by
  have hmax : maxDiagonal.toNat = 2 ^ 32 - 1 := rfl
  rw [clamp]
  split <;> simp only [UInt64.lt_iff_toNat_lt, hmax] at * <;> omega

variable {j c : UInt64}

theorem toNat_stepDown (hj : j.toNat < 2 ^ 32) : StepDownFits j c ∧
    (stepDown j c).toNat = if index c.toNat < j.toNat then j.toNat - 1 else j.toNat := by
  have htriangle := triangleFits_of_lt hj
  have hlt : c < Batch.triangle j ↔ index c.toNat < j.toNat := by
    rw [UInt64.lt_iff_toNat_lt, htriangle.toNat, ← not_le, triangle_le_iff, not_le]
  have hpred : index c.toNat < j.toNat → SubFits j 1 := Nat.one_le_of_lt
  refine ⟨⟨htriangle, fun h => hpred (hlt.mp h)⟩, ?_⟩
  rw [stepDown]
  split_ifs with h h'
  · exact (hpred h').toNat
  · exact absurd (hlt.mp h) h'
  · exact absurd (hlt.mpr ‹_›) h
  · rfl

theorem toNat_stepUp (hj : j.toNat < 2 ^ 32) : StepUpFits j c ∧
    (stepUp j c).toNat = if j.toNat < index c.toNat then j.toNat + 1 else j.toNat := by
  have htriangle := triangleFits_of_lt hj
  have hstart := triangle_le_of_lt hj
  have hlast : AddFits (Batch.triangle j) j := by
    rw [AddFits, htriangle.toNat]
    omega
  have hnext : AddFits (Batch.triangle j + j) 1 := by
    change (Batch.triangle j + j).toNat + 1 < 2 ^ 64
    rw [hlast.toNat, htriangle.toNat]
    omega
  have hle : Batch.triangle j + j + 1 ≤ c ↔ j.toNat < index c.toNat := by
    rw [UInt64.le_iff_toNat_le, toNat_add_one hnext, hlast.toNat, htriangle.toNat, ← triangle_succ,
      triangle_le_iff]
    rfl
  refine ⟨⟨htriangle, hlast, hnext, fun _ => htriangle.succ⟩, ?_⟩
  rw [stepUp]
  split_ifs with h h'
  · exact toNat_add_one htriangle.succ
  · exact absurd (hle.mp h) h'
  · exact absurd (hle.mpr ‹_›) h
  · rfl

variable {estimate : UInt64}

theorem toNat_correct (hc : c.toNat < 2 ^ 63) (h : NearDiagonal estimate c.toNat) :
    StepDownFits (clamp estimate) c ∧ StepUpFits (stepDown (clamp estimate) c) c ∧
      (correct estimate c).toNat = index c.toNat := by
  obtain ⟨d, hd, hhigh, hlow⟩ := h
  obtain rfl := index_eq_iff.mpr hd
  have hindex := index_lt_of_lt hc
  have hclamp := toNat_clamp estimate
  obtain ⟨hdown, hdownNat⟩ := toNat_stepDown (j := clamp estimate) (c := c) (by omega)
  obtain ⟨hup, hupNat⟩ := toNat_stepUp (j := stepDown (clamp estimate) c) (c := c)
    (by split at hdownNat <;> omega)
  refine ⟨hdown, hup, ?_⟩
  rw [correct, hupNat]
  split at hdownNat <;> split <;> omega

theorem unpairWord_spec (hc : c.toNat < 2 ^ 63) (h : NearDiagonal estimate c.toNat) :
    UnpairFits estimate c ∧
      unpair c.toNat = .ok ((unpairWord estimate c).1.toNat, (unpairWord estimate c).2.toNat) := by
  obtain ⟨hdown, hup, hcorrect⟩ := toNat_correct hc h
  obtain ⟨hle, hlt⟩ := isIndex_index c.toNat
  rw [triangle_succ] at hlt
  have htriangle : TriangleFits (correct estimate c) :=
    triangleFits_of_lt (hcorrect ▸ index_lt_of_lt hc)
  have hstart :
      (Batch.triangle (correct estimate c)).toNat = Diagonal.triangle (index c.toNat) := by
    rw [htriangle.toNat, hcorrect]
  have hsecond : SubFits c (Batch.triangle (correct estimate c)) := by
    rw [SubFits, hstart]
    exact hle
  have hfirst : SubFits (correct estimate c) (c - Batch.triangle (correct estimate c)) := by
    rw [SubFits, hsecond.toNat, hstart, hcorrect]
    omega
  refine ⟨⟨hdown, hup, htriangle, hsecond, hfirst⟩, ?_⟩
  rw [unpair_natCast, unpairWord, hfirst.toNat, hsecond.toNat, hstart, hcorrect]
  congr 2 <;> omega

theorem decode_word (hc : c.toNat < 2 ^ 63) (h : NearDiagonal estimate c.toNat) :
    Key.decode c.toNat = .ok ((unfoldWord (unpairWord estimate c).1).toInt,
      (unfoldWord (unpairWord estimate c).2).toInt) := by
  have hkey : IsKey c.toNat := ⟨Int.natCast_nonneg _, by rw [keyMax_eq]; omega⟩
  rw [Key.decode_of_isKey hkey, (unpairWord_spec hc h).2, toInt_unfoldWord, toInt_unfoldWord]
  rfl

theorem keyRefused_decodeFrom_iff (estimate : UInt64 → UInt64) (words : Tensor UInt64) :
    KeyRefused (decodeFrom estimate words) ↔ ∃ w ∈ words.cells, 2 ^ 63 ≤ w.toNat := by
  have hany : words.any (maxKey < ·) = true ↔ ∃ w ∈ words.cells, 2 ^ 63 ≤ w.toNat := by
    simp only [Tensor.any_decide_iff_mem, UInt64.lt_iff_toNat_lt]
    rfl
  rw [← hany, decodeFrom]
  split <;> simp [*, Error.isKeyRange]

theorem decodeFrom_eq_ok {estimate : UInt64 → UInt64} {words : Tensor UInt64}
    (h : ¬ KeyRefused (decodeFrom estimate words)) :
    decodeFrom estimate words =
      .ok (words.map fun w => unfoldWord (unpairWord (estimate w) w).1,
        words.map fun w => unfoldWord (unpairWord (estimate w) w).2) := by
  rw [decodeFrom] at h ⊢
  split_ifs at h ⊢ with hany
  · exact absurd ((keyRefused_error _).mpr rfl) h
  · simp only [unfoldAll, Tensor.map_map]

theorem keyWords_int64 (t : Tensor Int64) :
    keyWords .int64 (t.map fun w => .int w.toInt) =
      if t.any (· < 0) then .error .negativeKeys else .ok (t.map Int64.toUInt64) := by
  have hsigned : keyWords .int64 (t.map fun w => .int w.toInt) =
      if (t.map fun w => Scalar.int w.toInt).any (·.castInt64 < 0) then .error .negativeKeys
      else .ok ((t.map fun w => Scalar.int w.toInt).map Scalar.castUInt64) := rfl
  rw [hsigned]
  simp only [Tensor.any_map, Tensor.map_map, Input.castInt64_int, Input.castUInt64_signed]

theorem keyWords_uint64 (t : Tensor UInt64) :
    keyWords .uint64 (t.map fun w => .int w.toNat) = .ok t :=
  congrArg Except.ok (Input.map_castUInt64_int t)

theorem decodeFrom_of_words {keys : Input} {values : Tensor Int} (h : keys.Words values)
    (estimate : UInt64 → UInt64) :
    (keys.decodeFrom estimate = .error .negativeKeys ∧ ∃ c ∈ values.cells, c < 0) ∨
      ∃ words : Tensor UInt64, (words.map fun w => (w.toNat : Int)) = values ∧
        keys.decodeFrom estimate = decodeFrom estimate words := by
  cases h with
  | signed t =>
    have hdecode : (Input.ofInt64 t).decodeFrom estimate =
        keyWords .int64 (t.map fun w => .int w.toInt) >>= decodeFrom estimate := rfl
    rw [hdecode, keyWords_int64]
    split_ifs with hany
    · obtain ⟨w, hw, hneg⟩ := Tensor.any_decide_iff_mem.mp hany
      exact .inl ⟨rfl, w.toInt, List.mem_map_of_mem hw, Int64.lt_iff_toInt_lt.mp hneg⟩
    · refine .inr ⟨t.map Int64.toUInt64, ?_, rfl⟩
      rw [Tensor.map_map]
      refine Tensor.map_congr fun w hw => toNat_toUInt64_of_nonneg ?_
      by_contra hneg
      have hbelow : w < 0 := Int64.lt_iff_toInt_lt.mpr (not_le.mp hneg)
      exact hany (Tensor.any_decide_iff_mem.mpr ⟨w, hw, hbelow⟩)
  | unsigned t =>
    have hdecode : (Input.ofUInt64 t).decodeFrom estimate =
        keyWords .uint64 (t.map fun w => .int w.toNat) >>= decodeFrom estimate := rfl
    exact .inr ⟨t, rfl, by rw [hdecode, keyWords_uint64]; rfl⟩

theorem toNat_lt_of_isKey {w : UInt64} (h : IsKey w.toNat) : w.toNat < 2 ^ 63 := by
  have hle := h.2
  rw [keyMax_eq] at hle
  omega

theorem exists_word_of_isKey {c : Int} (h : IsKey c) :
    ∃ w : UInt64, (w.toNat : Int) = c ∧ w.toNat < 2 ^ 63 := by
  obtain ⟨hlow, hhigh⟩ := h
  rw [keyMax_eq] at hhigh
  have hnat : (UInt64.ofNat c.toNat).toNat = c.toNat :=
    UInt64.toNat_ofNat_of_lt' (by change c.toNat < 2 ^ 64; omega)
  exact ⟨.ofNat c.toNat, by omega, by omega⟩

variable {keys : Input} {values : Tensor Int}

theorem keyRefused_iff_of_words (h : keys.Words values) (estimate : UInt64 → UInt64) :
    KeyRefused (keys.decodeFrom estimate) ↔ ∃ c ∈ values.cells, c < 0 ∨ keyMax < c := by
  rcases decodeFrom_of_words h estimate with ⟨herror, c, hc, hneg⟩ | ⟨words, rfl, hwords⟩
  · rw [herror]
    exact iff_of_true ((keyRefused_error _).mpr rfl) ⟨c, hc, .inl hneg⟩
  · rw [hwords, keyRefused_decodeFrom_iff, keyMax_eq]
    constructor
    · rintro ⟨w, hw, hlarge⟩
      exact ⟨w.toNat, List.mem_map_of_mem hw, .inr (by omega)⟩
    · rintro ⟨c, hc, hout⟩
      obtain ⟨w, hw, rfl⟩ := List.mem_map.mp hc
      exact ⟨w, hw, by omega⟩

theorem isKey_of_not_keyRefused (h : keys.Words values) {estimate : UInt64 → UInt64}
    (hok : ¬ KeyRefused (keys.decodeFrom estimate)) {c : Int} (hc : c ∈ values.cells) :
    IsKey c := by
  by_contra hout
  exact hok ((keyRefused_iff_of_words h estimate).mpr ⟨c, hc, not_isKey_iff.mp hout⟩)

theorem isIndex_correct {c : Int} (hc : IsKey c) {e : UInt64} (hnear : NearDiagonal e c.toNat) :
    IsIndex c.toNat (correct e (.ofNat c.toNat)).toNat ∧ UnpairFits e (.ofNat c.toNat) := by
  obtain ⟨w, rfl, hlt⟩ := exists_word_of_isKey hc
  rw [Int.toNat_natCast] at hnear ⊢
  rw [UInt64.ofNat_toNat, (toNat_correct hlt hnear).2.2]
  exact ⟨isIndex_index _, (unpairWord_spec hlt hnear).1⟩

theorem decodeFrom_pairs (h : keys.Words values) {estimate : UInt64 → UInt64}
    (hok : ¬ KeyRefused (keys.decodeFrom estimate))
    (hnear : ∀ c ∈ values.cells, NearDiagonal (estimate (.ofNat c.toNat)) c.toNat) :
    ∃ xs ys, keys.decodeFrom estimate = .ok (xs, ys) ∧
      xs.shape = values.shape ∧ ys.shape = values.shape ∧
        ∀ index c, values.get? index = some c → ∃ x y, xs.get? index = some x ∧
          ys.get? index = some y ∧ Key.decode c = .ok (x.toInt, y.toInt) := by
  rcases decodeFrom_of_words h estimate with ⟨herror, -⟩ | ⟨words, rfl, hwords⟩
  · exact absurd ((keyRefused_error _).mpr rfl) (herror ▸ hok)
  have hdecode := decodeFrom_eq_ok (hwords ▸ hok)
  refine ⟨_, _, hwords.trans hdecode, rfl, rfl, fun index c hget => ?_⟩
  have hc : c ∈ (words.map fun w => (w.toNat : Int)).cells :=
    Tensor.mem_cells_iff.mpr ⟨index, hget⟩
  have hw := hnear c hc
  have hkey := isKey_of_not_keyRefused h hok hc
  rw [Tensor.get?_map, Option.map_eq_some_iff] at hget
  obtain ⟨w, hget, rfl⟩ := hget
  rw [Int.toNat_natCast, UInt64.ofNat_toNat] at hw
  rw [Tensor.get?_map, Tensor.get?_map, hget]
  exact ⟨_, _, rfl, rfl, decode_word (toNat_lt_of_isKey hkey) hw⟩

/-- An array of words is decoded as its numbers are one by one. The steps from any estimate that is
at most one off end at the exact diagonal, and none of them wraps. -/
structure DecodesCellwise (keys : Input) (values : Tensor Int) (estimate : UInt64 → UInt64) :
    Prop where
  keyRefused_iff : KeyRefused (keys.decodeFrom estimate) ↔
    ∃ c ∈ values.cells, c < 0 ∨ keyMax < c
  exact : ¬ KeyRefused (keys.decodeFrom estimate) → ∀ c ∈ values.cells, ∀ e,
    NearDiagonal e c.toNat →
      IsIndex c.toNat (correct e (.ofNat c.toNat)).toNat ∧ UnpairFits e (.ofNat c.toNat)
  pairs : ¬ KeyRefused (keys.decodeFrom estimate) →
    (∀ c ∈ values.cells, NearDiagonal (estimate (.ofNat c.toNat)) c.toNat) →
      ∃ xs ys, keys.decodeFrom estimate = .ok (xs, ys) ∧
        xs.shape = values.shape ∧ ys.shape = values.shape ∧
          ∀ index c, values.get? index = some c → ∃ x y, xs.get? index = some x ∧
            ys.get? index = some y ∧ Key.decode c = .ok (x.toInt, y.toInt)

theorem decodeFrom_cellwise (h : keys.Words values) (estimate : UInt64 → UInt64) :
    DecodesCellwise keys values estimate := by
  refine ⟨keyRefused_iff_of_words h estimate, ?_, decodeFrom_pairs h⟩
  intro hok c hc e hnear
  exact isIndex_correct (isKey_of_not_keyRefused h hok hc) hnear

theorem estimate_last_diagonal : Batch.estimate 9223372034707292159 = 4294967295 := by
  have hroot : isqrt (Estimate.radicand 9223372034707292159 * Nat.pow 4 Estimate.rootDigits) =
      158456325010081931112304607231 := isqrt_eq_of_sq_le (by decide) (by decide)
  have hdiagonal : Estimate.diagonal 9223372034707292159 = 4294967295 := by
    rw [Estimate.diagonal, Estimate.root]
    simp only [hroot]
    decide
  exact congrArg UInt64.ofNat hdiagonal

/-- The last key before the last diagonal, whose estimate is one too high. -/
theorem decodeFrom_cellwise_last_diagonal :
    let keys : Tensor UInt64 := ⟨[1], [9223372034707292159], rfl⟩
    (Input.ofUInt64 keys).Words (keys.map fun w => (w.toNat : Int)) ∧
      NearDiagonal (Batch.estimate 9223372034707292159) 9223372034707292159 ∧
        ∃ xs ys, (Input.ofUInt64 keys).decode = .ok (xs, ys) ∧
          ∃ x y, xs.get? [0] = some x ∧ ys.get? [0] = some y ∧
            Key.decode 9223372034707292159 = .ok (x.toInt, y.toInt) := by
  intro keys
  have hnear : NearDiagonal (Batch.estimate 9223372034707292159) 9223372034707292159 := by
    rw [estimate_last_diagonal]
    exact ⟨4294967294, ⟨by decide, by decide⟩, by decide, by decide⟩
  have hcells := decodeFrom_cellwise (.unsigned keys) Batch.estimate
  have haccepted : ¬ KeyRefused ((Input.ofUInt64 keys).decodeFrom Batch.estimate) := by
    rw [hcells.keyRefused_iff]
    rintro ⟨c, hc, hout⟩
    obtain rfl := List.mem_singleton.mp hc
    revert hout
    decide
  obtain ⟨xs, ys, hdecode, -, -, hget⟩ := hcells.pairs haccepted fun c hc => by
    obtain rfl := List.mem_singleton.mp hc
    exact hnear
  exact ⟨.unsigned keys, hnear, xs, ys, hdecode, hget [0] _ rfl⟩

end VoxelGrid.Batch
