import VoxelGrid.Proofs.Batch.Word
import VoxelGrid.Proofs.Key.Domain
import VoxelGrid.Proofs.Tensor.Broadcast
import VoxelGrid.Proofs.Tensor.Words

/-! Keys of two arrays of words, cell by cell. The guards of the encoder refuse a pair of words
exactly when the key of its numbers is out of range, and nothing wraps for a pair they let
through. -/

namespace VoxelGrid.Batch

open Word Tensor

structure PairFits (first second : UInt64) : Prop where
  sum : AddFits first second
  triangle : TriangleFits (first + second)
  key : AddFits (Batch.triangle (first + second)) second

theorem pairFits_of_lt {first second : UInt64} (h : first.toNat + second.toNat < 2 ^ 32) :
    PairFits first second := by
  have hsum : AddFits first second := by rw [AddFits]; omega
  have htriangle : TriangleFits (first + second) := triangleFits_of_lt (by rwa [hsum.toNat])
  refine ⟨hsum, htriangle, ?_⟩
  have hle := triangle_le_of_lt h
  rw [AddFits, htriangle.toNat, hsum.toNat]
  omega

theorem PairFits.toNat {first second : UInt64} (h : PairFits first second) :
    ((pairWord first second).toNat : Int) = Diagonal.pair first.toNat second.toNat := by
  have hword : pairWord first second = Batch.triangle (first + second) + second := rfl
  rw [hword, h.key.toNat, h.triangle.toNat, h.sum.toNat, Diagonal.pair_natCast]

theorem sum_lt_of_pair_le {first second : Nat} (h : Diagonal.pair first second ≤ keyMax) :
    first + second < 2 ^ 32 := by
  rw [← not_lt, Key.keyMax_lt_pair_iff (Int.natCast_nonneg _) (Int.natCast_nonneg _),
    Key.PastLast] at h
  omega

/-- What the guards of the encoder refuse. -/
def PairRefused (p : UInt64 × UInt64) : Prop :=
  (pairLimit ≤ p.1 ∨ pairLimit ≤ p.2) ∨ pairLimit ≤ p.1 + p.2 ∨ maxKey < pairWord p.1 p.2

theorem pairRefused_iff_sum {first second : UInt64} :
    PairRefused (first, second) ↔
      2 ^ 32 ≤ first.toNat + second.toNat ∨ maxKey < pairWord first second := by
  have hfirst : pairLimit ≤ first ↔ 2 ^ 32 ≤ first.toNat := UInt64.le_iff_toNat_le
  have hsecond : pairLimit ≤ second ↔ 2 ^ 32 ≤ second.toNat := UInt64.le_iff_toNat_le
  have hsum : pairLimit ≤ first + second ↔ 2 ^ 32 ≤ (first + second).toNat :=
    UInt64.le_iff_toNat_le
  have hwrap := UInt64.toNat_add first second
  simp only [PairRefused, hfirst, hsecond, hsum, ← or_assoc]
  -- the sum wraps only for components that the first guard has stopped
  refine or_congr_left ?_
  omega

theorem pairRefused_iff {first second : UInt64} :
    PairRefused (first, second) ↔ keyMax < Diagonal.pair first.toNat second.toNat := by
  rw [pairRefused_iff_sum]
  by_cases h : first.toNat + second.toNat < 2 ^ 32
  · have hkey := (pairFits_of_lt h).toNat
    have hmax : maxKey.toNat = 2 ^ 63 - 1 := rfl
    rw [UInt64.lt_iff_toNat_lt, hmax, keyMax_eq]
    omega
  · have hlarge : keyMax < Diagonal.pair first.toNat second.toNat :=
      not_le.mp fun hle => h (sum_lt_of_pair_le hle)
    exact ⟨fun _ => hlarge, fun _ => .inl (not_lt.mp h)⟩

/-- The place of two words has far fewer digits than can be written. -/
theorem hasNumeral_place_toInt (x y : Int64) : HasNumeral (Key.place x.toInt y.toInt) := by
  have hword (w : Int64) : w.toInt.natAbs ≤ 2 ^ 63 := by
    have hlow := w.le_toInt
    have hhigh := w.toInt_lt
    omega
  exact Key.hasNumeral_place (Key.natAbs_lt_of_word (hword x)) (Key.natAbs_lt_of_word (hword y))

theorem pairRefused_foldWord_iff {x y : Int64} :
    PairRefused (foldWord x, foldWord y) ↔ KeyRefused (Key.encode x.toInt y.toInt) := by
  rw [pairRefused_iff, toNat_foldWord, toNat_foldWord, Key.keyRefused_encode_iff,
    and_iff_left (hasNumeral_place_toInt x y), Key.place]

theorem encode_of_not_pairRefused {x y : Int64} (h : ¬ PairRefused (foldWord x, foldWord y)) :
    PairFits (foldWord x) (foldWord y) ∧
      Key.encode x.toInt y.toInt = .ok ((pairWord (foldWord x) (foldWord y)).toNat : Int) := by
  have hle := not_lt.mp (pairRefused_iff.not.mp h)
  have hfits := pairFits_of_lt (sum_lt_of_pair_le hle)
  refine ⟨hfits, Key.encode_eq_ok_iff.mpr ?_⟩
  rw [hfits.toNat, Key.place, ← toNat_foldWord, ← toNat_foldWord]
  exact ⟨rfl, hle⟩

variable {xs ys : Tensor Int64}

theorem encode_of_zip? {pairs : Tensor (UInt64 × UInt64)}
    (hx : xs.shape.length ≤ Shape.maxJoinRank) (hy : ys.shape.length ≤ Shape.maxJoinRank)
    (hzip : (foldAll xs).zip? (foldAll ys) = some pairs) :
    (encode xs ys = .ok (pairs.map fun p => pairWord p.1 p.2) ∧
        ∀ index p, pairs.get? index = some p → ¬ PairRefused p) ∨
      KeyRefused (encode xs ys) ∧ ∃ index p, pairs.get? index = some p ∧ PairRefused p := by
  have hencode : encode xs ys =
      if pairs.any fun p => decide (pairLimit ≤ p.1 ∨ pairLimit ≤ p.2) then
        .error .componentsTooLarge
      else if pairs.any fun p => decide (pairLimit ≤ p.1 + p.2) then .error .componentsTooLarge
      else if pairs.any fun p => decide (maxKey < pairWord p.1 p.2) then .error .keysTooLarge
      else .ok (pairs.map fun p => pairWord p.1 p.2) := by
    rw [encode, checkRank, if_neg (by omega), checkRank, if_neg (by omega), hzip]
    simp only [any_map, Bool.decide_or]
    rfl
  rw [hencode]
  split_ifs with hcomponent hsum hkey
  · obtain ⟨index, p, hget, hp⟩ := any_decide_iff.mp hcomponent
    exact .inr ⟨(keyRefused_error _).mpr rfl, index, p, hget, .inl hp⟩
  · obtain ⟨index, p, hget, hp⟩ := any_decide_iff.mp hsum
    exact .inr ⟨(keyRefused_error _).mpr rfl, index, p, hget, .inr (.inl hp)⟩
  · obtain ⟨index, p, hget, hp⟩ := any_decide_iff.mp hkey
    exact .inr ⟨(keyRefused_error _).mpr rfl, index, p, hget, .inr (.inr hp)⟩
  · refine .inl ⟨rfl, fun index p hget hp => ?_⟩
    rcases hp with hp | hp | hp
    · exact hcomponent (any_decide_iff.mpr ⟨index, p, hget, hp⟩)
    · exact hsum (any_decide_iff.mpr ⟨index, p, hget, hp⟩)
    · exact hkey (any_decide_iff.mpr ⟨index, p, hget, hp⟩)

theorem encode_of_rank (h : Shape.maxJoinRank < max xs.shape.length ys.shape.length) :
    ∃ rank, encode xs ys = .error (.rankTooLarge rank) := by
  rw [encode, checkRank, checkRank]
  by_cases hx : Shape.maxJoinRank < xs.shape.length
  · exact ⟨xs.shape.length, by rw [if_pos hx]; rfl⟩
  · exact ⟨ys.shape.length, by rw [if_neg hx, if_pos (by omega)]; rfl⟩

theorem input_encode_ofInt64 :
    Input.encode (.ofInt64 xs) (.ofInt64 ys) = encode xs ys := by
  rw [Input.encode, Input.toInt64_ofInt64, Input.toInt64_ofInt64]
  rfl

/-- Two arrays are encoded over the shape `s` as their cells are one by one, and no operation
wraps where all of them have keys. -/
structure EncodesCellwise (xs ys : Tensor Int64) (s : Shape) : Prop where
  keyRefused_iff : KeyRefused (Input.encode (.ofInt64 xs) (.ofInt64 ys)) ↔
    ∃ index x y, Meet xs ys s index x y ∧ KeyRefused (Key.encode x.toInt y.toInt)
  keys : ¬ KeyRefused (Input.encode (.ofInt64 xs) (.ofInt64 ys)) →
    ∃ keys, Input.encode (.ofInt64 xs) (.ofInt64 ys) = .ok keys ∧ keys.shape = s ∧
      ∀ index, s.Contains index → ∃ x y key, Meet xs ys s index x y ∧
        keys.get? index = some key ∧ Key.encode x.toInt y.toInt = .ok (key.toNat : Int) ∧
          PairFits (foldWord x) (foldWord y)

theorem encodesCellwise_of_rank {s : Shape} (h : xs.shape.Joins ys.shape s)
    (hrank : s.length ≤ Shape.maxJoinRank) : EncodesCellwise xs ys s := by
  rw [h.rank] at hrank
  have hfold : (foldAll xs).shape.Joins (foldAll ys).shape s := h
  have hzip := zip?_eq_some hfold
  -- a pair of folded words stands where the words it comes from meet
  have hget : ∀ index x y, Meet xs ys s index x y →
      (ofFn s _).get? index = some (foldWord x, foldWord y) := fun index x y hmeet =>
    (get?_zip?_iff hfold hzip).mpr (meet_map_iff.mpr ⟨x, y, hmeet, rfl, rfl⟩)
  rcases encode_of_zip? (by omega) (by omega) hzip with
    ⟨hok, hnone⟩ | ⟨hrefused, index, p, hp, hbad⟩
  · constructor
    · rw [input_encode_ofInt64, hok]
      simp only [not_keyRefused_ok, false_iff, not_exists, not_and]
      intro index x y hmeet hbad
      exact hnone index _ (hget index x y hmeet) (pairRefused_foldWord_iff.mpr hbad)
    · intro _
      refine ⟨_, input_encode_ofInt64.trans hok, rfl, fun index hcontains => ?_⟩
      obtain ⟨x, y, hmeet⟩ := exists_meet h hcontains
      obtain ⟨hfits, hkey⟩ := encode_of_not_pairRefused (hnone index _ (hget index x y hmeet))
      exact ⟨x, y, _, hmeet, by rw [get?_map, hget index x y hmeet, Option.map_some], hkey, hfits⟩
  · rw [← input_encode_ofInt64] at hrefused
    obtain ⟨x, y, hmeet, hx, hy⟩ := meet_map_iff.mp ((get?_zip?_iff hfold hzip).mp hp)
    have hkey : KeyRefused (Key.encode x.toInt y.toInt) := by
      rw [← pairRefused_foldWord_iff, hx, hy]
      exact hbad
    exact ⟨iff_of_true hrefused ⟨index, x, y, hmeet, hkey⟩, fun hnot => absurd hrefused hnot⟩

/-- Arrays that fit together are encoded cell by cell, as long as they have no more axes than can be
brought to a common shape. -/
theorem encode_cellwise {s : Shape} (h : xs.shape.Joins ys.shape s) :
    (s.length ≤ Shape.maxJoinRank → EncodesCellwise xs ys s) ∧
      (Shape.maxJoinRank < s.length →
        ∃ rank, Input.encode (.ofInt64 xs) (.ofInt64 ys) = .error (.rankTooLarge rank)) := by
  refine ⟨encodesCellwise_of_rank h, fun hrank => ?_⟩
  rw [input_encode_ofInt64]
  exact encode_of_rank (h.rank ▸ hrank)

/-- Three cells beside a column of two: one of the six pairs has no key. -/
theorem encode_cellwise_column :
    let column : Tensor Int64 := ⟨[2, 1], [-2147483648, 1], rfl⟩
    let row : Tensor Int64 := ⟨[3], [0, 0, -1], rfl⟩
    column.shape.Joins row.shape [2, 3] ∧ [2, 3].length ≤ Shape.maxJoinRank ∧
      KeyRefused (Input.encode (.ofInt64 column) (.ofInt64 row)) := by
  intro column row
  have h : column.shape.Joins row.shape [2, 3] := Shape.join?_eq_some_iff.mp rfl
  have hrank : [2, 3].length ≤ Shape.maxJoinRank := by decide
  refine ⟨h, hrank, ((encode_cellwise h).1 hrank).keyRefused_iff.mpr ?_⟩
  refine ⟨[0, 2], -2147483648, -1, ⟨by decide, rfl, rfl⟩, ?_⟩
  rw [Key.keyRefused_encode_iff]
  exact ⟨by decide, hasNumeral_place_toInt _ _⟩

def deepCell : Tensor Int64 := ⟨List.replicate 33 1, [1], by decide⟩

/-- With more axes than can be brought to a common shape there are no keys, although the one pair of
cells has one. -/
theorem not_encodesCellwise_deepCell :
    deepCell.shape.Joins deepCell.shape deepCell.shape ∧
      Meet deepCell deepCell deepCell.shape (List.replicate 33 0) 1 1 ∧
        Key.encode 1 1 = .ok 12 ∧ ¬ EncodesCellwise deepCell deepCell deepCell.shape := by
  have hencode : Input.encode (.ofInt64 deepCell) (.ofInt64 deepCell) = .error (.rankTooLarge 33) :=
    input_encode_ofInt64.trans rfl
  refine ⟨Shape.Joins.refl _, ⟨by decide, rfl, rfl⟩, ?_, fun h => ?_⟩
  · rw [Key.encode_eq_ok_iff]
    decide
  · obtain ⟨keys, hkeys, -⟩ := h.keys (by rw [hencode]; simp [Error.isKeyRange])
    rw [hencode] at hkeys
    cases hkeys

end VoxelGrid.Batch
