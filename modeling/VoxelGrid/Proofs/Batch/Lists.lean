import VoxelGrid.Proofs.Batch.Encode
import VoxelGrid.Proofs.Batch.Estimate
import VoxelGrid.Proofs.Tensor.Plain

/-! Keys of plain lists of integers. A list is converted to words before anything is checked, so
integers that are no words, and a list from which no type of words can be inferred, are refused for
that and not for the range of keys. -/

namespace VoxelGrid.Batch

open Scalar Tensor

section Encode

/-- Some pair of integers at one place of both lists has no key. -/
def HasKeylessPair (xs ys : List Int) : Prop :=
  ∃ (i : Nat) (x y : Int), xs[i]? = some x ∧ ys[i]? = some y ∧ ∃ e, Key.encode x y = .error e

/-- Some pair of integers at one place of both lists is refused for the range of keys. -/
def HasRefusedPair (xs ys : List Int) : Prop :=
  ∃ (i : Nat) (x y : Int), xs[i]? = some x ∧ ys[i]? = some y ∧ KeyRefused (Key.encode x y)

/-- Lists with a pair that is refused for the range of keys are so too, and for nothing else. -/
def RefusesRange (xs ys : List Int) : Prop :=
  HasRefusedPair xs ys → KeyRefused (Input.encode (.ofIntegers xs) (.ofIntegers ys))

theorem exists_encode_error_of_not_inInt64 {x y : Int} (h : ¬ (InInt64 x ∧ InInt64 y)) :
    ∃ e, Key.encode x y = .error e := by
  have hx := ZigZag.fold_nonneg x
  have hy := ZigZag.fold_nonneg y
  have hxFold := (ZigZag.fold_lt_two_mul_iff (x := x) (b := 2 ^ 63)).not
  have hyFold := (ZigZag.fold_lt_two_mul_iff (x := y) (b := 2 ^ 63)).not
  -- one component alone lies past the last diagonal
  rw [Key.exists_encode_error_iff_pastLast, Key.PastLast]
  rw [InInt64, InInt64] at h
  omega

theorem exists_pair {xs ys : List Int} (h : xs.length = ys.length) {n : Int} (hn : n ∈ xs ++ ys) :
    ∃ (i : Nat) (x y : Int), xs[i]? = some x ∧ ys[i]? = some y ∧ (n = x ∨ n = y) := by
  rcases List.mem_append.mp hn with hn | hn
  · obtain ⟨i, hi, rfl⟩ := List.getElem_of_mem hn
    exact ⟨i, xs[i], ys[i], List.getElem?_eq_getElem hi, List.getElem?_eq_getElem (h ▸ hi), .inl rfl⟩
  · obtain ⟨i, hi, rfl⟩ := List.getElem_of_mem hn
    exact ⟨i, xs[i], ys[i], List.getElem?_eq_getElem (h ▸ hi), List.getElem?_eq_getElem hi, .inr rfl⟩

variable {xs ys : List Int}

theorem hasKeylessPair_of_not_inInt64 (h : xs.length = ys.length)
    (hout : ∃ n ∈ xs ++ ys, ¬ InInt64 n) : HasKeylessPair xs ys := by
  obtain ⟨n, hn, hlarge⟩ := hout
  obtain ⟨i, x, y, hx, hy, hpair⟩ := exists_pair h hn
  refine ⟨i, x, y, hx, hy, exists_encode_error_of_not_inInt64 ?_⟩
  rcases hpair with rfl | rfl
  · exact fun hin => hlarge hin.1
  · exact fun hin => hlarge hin.2

/-- Where places can be written, the range of keys is the one thing that a pair is refused for. -/
theorem hasRefusedPair_iff (h : ∀ n ∈ xs ++ ys, n.natAbs < 10 ^ Key.componentDigits) :
    HasRefusedPair xs ys ↔ HasKeylessPair xs ys := by
  constructor
  · rintro ⟨i, x, y, hx, hy, e, he, -⟩
    exact ⟨i, x, y, hx, hy, e, he⟩
  · rintro ⟨i, x, y, hx, hy, hkeyless⟩
    have hnumeral : HasNumeral (Key.place x y) :=
      Key.hasNumeral_place (h x (List.mem_append_left _ (List.mem_of_getElem? hx)))
        (h y (List.mem_append_right _ (List.mem_of_getElem? hy)))
    exact ⟨i, x, y, hx, hy,
      Key.keyRefused_encode_iff.mpr ⟨Key.exists_encode_error_iff.mp hkeyless, hnumeral⟩⟩

theorem natAbs_lt_of_inInt64 {n : Int} (h : InInt64 n) : n.natAbs < 10 ^ Key.componentDigits := by
  rw [InInt64] at h
  exact Key.natAbs_lt_of_word (by omega)

theorem encode_integers_of_inInt64 (h : ∀ n ∈ xs ++ ys, InInt64 n) :
    Input.encode (.ofIntegers xs) (.ofIntegers ys) =
      Input.encode (.ofInt64 (.ofList (xs.map .ofInt))) (.ofInt64 (.ofList (ys.map .ofInt))) := by
  obtain ⟨hxs, hys⟩ := List.forall_mem_append.mp h
  rw [input_encode_ofInt64, Input.encode, Input.toInt64_ofIntegers_eq_ok hxs,
    Input.toInt64_ofIntegers_eq_ok hys]
  rfl

theorem encode_integers_of_not_inInt64 (h : ∃ n ∈ xs ++ ys, ¬ InInt64 n) :
    Input.encode (.ofIntegers xs) (.ofIntegers ys) = .error .integerTooLarge := by
  rw [Input.encode]
  -- the second list is converted only after the first one
  by_cases hxs : ∀ n ∈ xs, InInt64 n
  · have hys : ∃ n ∈ ys, ¬ InInt64 n := by
      obtain ⟨n, hn, hout⟩ := h
      exact ⟨n, (List.mem_append.mp hn).resolve_left fun hx => hout (hxs n hx), hout⟩
    rw [Input.toInt64_ofIntegers_eq_ok hxs, Input.toInt64_ofIntegers_eq_error hys]
    rfl
  · rw [Input.toInt64_ofIntegers_eq_error (by push Not at hxs; exact hxs)]
    rfl

/-- The words of two lists meet where the integers stand at one place. -/
theorem exists_meet_words_iff (h : xs.length = ys.length) (hin : ∀ n ∈ xs ++ ys, InInt64 n)
    {i : Nat} {x y : Int} :
    (∃ v w : Int64, Meet (.ofList (xs.map .ofInt)) (.ofList (ys.map .ofInt)) [xs.length] [i] v w ∧
      v.toInt = x ∧ w.toInt = y) ↔ xs[i]? = some x ∧ ys[i]? = some y := by
  obtain ⟨hxs, hys⟩ := List.forall_mem_append.mp hin
  rw [← meet_ofList_iff h, ← map_toInt_ofList hxs, ← map_toInt_ofList hys]
  exact meet_map_iff.symm

/-- Two lists of integers are encoded as their pairs are one by one, unless an integer is no
word. -/
structure EncodesIntegers (xs ys : List Int) : Prop where
  keyRefused_iff : KeyRefused (Input.encode (.ofIntegers xs) (.ofIntegers ys)) ↔
    HasRefusedPair xs ys ∧ ∀ n ∈ xs ++ ys, InInt64 n
  tooLarge : (∃ n ∈ xs ++ ys, ¬ InInt64 n) → HasKeylessPair xs ys ∧
    Input.encode (.ofIntegers xs) (.ofIntegers ys) = .error .integerTooLarge
  keys : ¬ HasKeylessPair xs ys →
    ∃ keys, Input.encode (.ofIntegers xs) (.ofIntegers ys) = .ok keys ∧
      keys.shape = [xs.length] ∧ ∀ (i : Nat) (x y : Int), xs[i]? = some x → ys[i]? = some y →
        ∃ key, keys.get? [i] = some key ∧ Key.encode x y = .ok (key.toNat : Int)

theorem encodesCellwise_words (h : xs.length = ys.length) :
    EncodesCellwise (.ofList (xs.map .ofInt)) (.ofList (ys.map .ofInt)) [xs.length] := by
  apply encodesCellwise_of_rank
  · simp only [ofList, List.length_map, h]
    exact Shape.Joins.refl _
  · change 1 ≤ 32
    decide

theorem keyRefused_encode_integers_iff (h : xs.length = ys.length)
    (hin : ∀ n ∈ xs ++ ys, InInt64 n) :
    KeyRefused (Input.encode (.ofIntegers xs) (.ofIntegers ys)) ↔ HasRefusedPair xs ys := by
  rw [encode_integers_of_inInt64 hin, (encodesCellwise_words h).keyRefused_iff]
  constructor
  · rintro ⟨index, v, w, hmeet, hkey⟩
    obtain ⟨i, -, rfl⟩ := contains_singleton_iff.mp hmeet.contains
    obtain ⟨hx, hy⟩ := (exists_meet_words_iff h hin).mp ⟨v, w, hmeet, rfl, rfl⟩
    exact ⟨i, _, _, hx, hy, hkey⟩
  · rintro ⟨i, x, y, hx, hy, hkey⟩
    obtain ⟨v, w, hmeet, rfl, rfl⟩ := (exists_meet_words_iff h hin).mpr ⟨hx, hy⟩
    exact ⟨[i], v, w, hmeet, hkey⟩

theorem encodesIntegers_of_inInt64 (h : xs.length = ys.length) (hin : ∀ n ∈ xs ++ ys, InInt64 n) :
    EncodesIntegers xs ys := by
  have hrefused := keyRefused_encode_integers_iff h hin
  refine ⟨hrefused.trans (and_iff_left hin).symm, ?_, fun hnone => ?_⟩
  · rintro ⟨n, hn, hout⟩
    exact absurd (hin n hn) hout
  · rw [← hasRefusedPair_iff fun n hn => natAbs_lt_of_inInt64 (hin n hn), ← hrefused,
      encode_integers_of_inInt64 hin] at hnone
    obtain ⟨keys, hkeys, hshape, hget⟩ := (encodesCellwise_words h).keys hnone
    refine ⟨keys, (encode_integers_of_inInt64 hin).trans hkeys, hshape, fun i x y hx hy => ?_⟩
    have hcontains : Shape.Contains [xs.length] [i] :=
      ⟨(List.getElem?_eq_some_iff.mp hx).1, trivial⟩
    obtain ⟨v, w, key, hmeet, hkey, hencode, -⟩ := hget [i] hcontains
    obtain ⟨hv, hw⟩ := (exists_meet_words_iff h hin).mp ⟨v, w, hmeet, rfl, rfl⟩
    obtain rfl : v.toInt = x := Option.some.inj (hv.symm.trans hx)
    obtain rfl : w.toInt = y := Option.some.inj (hw.symm.trans hy)
    exact ⟨key, hkey, hencode⟩

theorem encodesIntegers_of_not_inInt64 (h : xs.length = ys.length)
    (hout : ∃ n ∈ xs ++ ys, ¬ InInt64 n) : EncodesIntegers xs ys := by
  have hpair := hasKeylessPair_of_not_inInt64 h hout
  have hencode := encode_integers_of_not_inInt64 hout
  refine ⟨?_, fun _ => ⟨hpair, hencode⟩, fun hnone => absurd hpair hnone⟩
  obtain ⟨n, hn, hlarge⟩ := hout
  rw [hencode, keyRefused_error]
  exact iff_of_false (by decide) fun hin => hlarge (hin.2 n hn)

/-- Integers that are no words are refused before the range of keys is looked at, although no pair
with one of them has a key. All other lists are refused or encoded as their pairs are. -/
theorem encode_integers (h : xs.length = ys.length) :
    EncodesIntegers xs ys ∧
    (RefusesRange xs ys ↔ (∀ n ∈ xs ++ ys, InInt64 n) ∨ ¬ HasRefusedPair xs ys) ∧
    ((∀ n ∈ xs ++ ys, n.natAbs < 10 ^ Key.componentDigits) →
      (RefusesRange xs ys ↔ ∀ n ∈ xs ++ ys, InInt64 n)) := by
  have hencodes : EncodesIntegers xs ys := by
    by_cases hin : ∀ n ∈ xs ++ ys, InInt64 n
    · exact encodesIntegers_of_inInt64 h hin
    · push Not at hin
      exact encodesIntegers_of_not_inInt64 h hin
  have hrange : RefusesRange xs ys ↔ (∀ n ∈ xs ++ ys, InInt64 n) ∨ ¬ HasRefusedPair xs ys := by
    rw [RefusesRange, hencodes.keyRefused_iff]
    tauto
  refine ⟨hencodes, hrange, fun hdigits => hrange.trans (or_iff_left_of_imp fun hnone => ?_)⟩
  -- no pair is refused, so each has a key, and its integers are words
  by_contra hout
  push Not at hout
  exact hnone ((hasRefusedPair_iff hdigits).mpr (hasKeylessPair_of_not_inInt64 h hout))

/-- A pair far beyond the last key, of integers that are words. -/
theorem encode_integers_least : ([-0x8000000000000000, 3] : List Int).length = [0, 4].length ∧
    RefusesRange [-0x8000000000000000, 3] [0, 4] ∧
      KeyRefused (Input.encode (.ofIntegers [-0x8000000000000000, 3]) (.ofIntegers [0, 4])) := by
  have h : ([-0x8000000000000000, 3] : List Int).length = [0, 4].length := rfl
  have hwords : ∀ n ∈ [-0x8000000000000000, 3] ++ [0, 4], InInt64 n := by decide
  have hrange : RefusesRange [-0x8000000000000000, 3] [0, 4] :=
    ((encode_integers h).2.2 fun n hn => natAbs_lt_of_inInt64 (hwords n hn)).mpr hwords
  refine ⟨h, hrange, hrange ⟨0, -0x8000000000000000, 0, rfl, rfl, ?_⟩⟩
  rw [Key.keyRefused_encode_iff]
  exact ⟨by decide, hasNumeral_place_toInt (-0x8000000000000000) 0⟩

/-- The first integer past the words, whose pair with 0 has no key. -/
theorem not_refusesRange_word_end :
    KeyRefused (Key.encode 0x8000000000000000 0) ∧
      Input.encode (.ofIntegers [0x8000000000000000]) (.ofIntegers [0]) = .error .integerTooLarge ∧
        ¬ RefusesRange [0x8000000000000000] [0] := by
  have hkey : KeyRefused (Key.encode 0x8000000000000000 0) := by
    rw [Key.keyRefused_encode_iff]
    refine ⟨by decide, Key.hasNumeral_place ?_ ?_⟩
    · exact Key.natAbs_lt_of_word (by decide)
    · exact Key.natAbs_lt_of_word (by decide)
  have hencode : Input.encode (.ofIntegers [0x8000000000000000]) (.ofIntegers [0]) =
      .error .integerTooLarge := rfl
  refine ⟨hkey, hencode, fun hrange => ?_⟩
  have hrefused := hrange ⟨0, _, _, rfl, rfl, hkey⟩
  rw [hencode, keyRefused_error] at hrefused
  cases hrefused

end Encode

section Decode

theorem decodeFrom_of_resolve {keys words : Input} (h : keys.resolve = words.resolve)
    (estimate : UInt64 → UInt64) : keys.decodeFrom estimate = words.decodeFrom estimate := by
  rw [Input.decodeFrom, Input.decodeFrom, h]

theorem decodeFrom_of_not_words {keys : Input} {type : ElementType} {cells : Tensor Scalar}
    (h : keys.resolve = .ok (type, cells)) (htype : type = .float64 ∨ type = .object)
    (estimate : UInt64 → UInt64) : keys.decodeFrom estimate = .error (.keysNotIntegers type) := by
  rw [Input.decodeFrom, h]
  rcases htype with rfl | rfl <;> rfl

variable {keys : List Int}

/-- The integers of a list are words of one kind, or the list is refused and has an integer that is no
key. -/
theorem words_or_refused (hne : keys ≠ []) :
    (∃ words, Input.Words words (.ofList keys) ∧
        (Input.ofIntegers keys).decode = words.decode) ∨
      KeyRefused (Input.ofIntegers keys).decode ∧ ∃ c ∈ keys, ¬ IsKey c := by
  by_cases htype : Input.inferType (keys.map .int) = .float64 ∨
      Input.inferType (keys.map .int) = .object
  · have hdecode := decodeFrom_of_not_words (Input.resolve_ofIntegers keys) htype estimate
    refine .inr ⟨⟨_, hdecode, rfl⟩, ?_⟩
    by_contra hnone
    -- keys alone would have been signed words
    have hin : ∀ c ∈ keys, InInt64 c := by
      intro c hc
      have hkey : IsKey c := not_not.mp fun hout => hnone ⟨c, hc, hout⟩
      rw [IsKey, keyMax_eq] at hkey
      rw [InInt64]
      omega
    rw [Input.inferType_of_inInt64 hne hin] at htype
    revert htype
    decide
  · push Not at htype
    obtain ⟨words, hwords, hresolve⟩ := Input.exists_words_of_inferType hne htype.1 htype.2
    exact .inl ⟨words, hwords, decodeFrom_of_resolve hresolve estimate⟩

/-- A list of integers is decoded as its keys are one by one, and refused where one of them is out of
range. -/
structure DecodesIntegers (keys : List Int) : Prop where
  keyRefused_iff : KeyRefused (Input.ofIntegers keys).decode ↔ ∃ c ∈ keys, c < 0 ∨ keyMax < c
  pairs : (∀ c ∈ keys, 0 ≤ c ∧ c ≤ keyMax) →
    ∃ xs ys, (Input.ofIntegers keys).decode = .ok (xs, ys) ∧
      xs.shape = [keys.length] ∧ ys.shape = [keys.length] ∧
        ∀ (i : Nat) (c : Int), keys[i]? = some c → ∃ x y, xs.get? [i] = some x ∧
          ys.get? [i] = some y ∧ Key.decode c = .ok (x.toInt, y.toInt)

theorem nearDiagonal_of_isKey {c : Int} (h : IsKey c) :
    NearDiagonal (estimate (.ofNat c.toNat)) c.toNat := by
  obtain ⟨w, rfl, hlt⟩ := exists_word_of_isKey h
  rw [Int.toNat_natCast, UInt64.ofNat_toNat]
  exact nearDiagonal_estimate hlt

theorem decodesIntegers_of_ne_nil (hne : keys ≠ []) : DecodesIntegers keys := by
  rcases words_or_refused hne with ⟨words, hwords, hdecode⟩ | ⟨hrefused, c, hc, hout⟩
  · have hiff := keyRefused_iff_of_words hwords estimate
    constructor
    · rw [hdecode]
      exact hiff
    · intro hkeys
      have hok : ¬ KeyRefused (words.decodeFrom estimate) := by
        rw [hiff]
        rintro ⟨c, hc, hout⟩
        exact not_isKey_iff.mpr hout (hkeys c hc)
      obtain ⟨xs, ys, hpairs, hx, hy, hget⟩ :=
        decodeFrom_pairs hwords hok fun c hc => nearDiagonal_of_isKey (hkeys c hc)
      exact ⟨xs, ys, hdecode.trans hpairs, hx, hy, fun i c hc => hget [i] c (by rw [get?_ofList, hc])⟩
  · exact ⟨iff_of_true hrefused ⟨c, hc, not_isKey_iff.mp hout⟩, fun hkeys => absurd (hkeys c hc) hout⟩

theorem decode_nil : (Input.ofIntegers []).decode = .error (.keysNotIntegers .float64) :=
  decodeFrom_of_not_words (Input.resolve_ofIntegers []) (.inl rfl) estimate

/-- No type of words is inferred for the empty list, which is therefore refused. Every other list of
integers is decoded if and only if all of them are keys. -/
theorem decode_integers_iff (keys : List Int) : DecodesIntegers keys ↔ keys ≠ [] := by
  constructor
  · rintro hdecodes rfl
    obtain ⟨c, hc, -⟩ := hdecodes.keyRefused_iff.mp ⟨_, decode_nil, rfl⟩
    cases hc
  · exact decodesIntegers_of_ne_nil

theorem not_decodesIntegers_nil :
    (Input.ofIntegers []).decode = .error (.keysNotIntegers .float64) ∧ ¬ DecodesIntegers [] := by
  refine ⟨decode_nil, fun hdecodes => ?_⟩
  obtain ⟨xs, ys, hdecode, -⟩ := hdecodes.pairs fun c hc => by cases hc
  rw [decode_nil] at hdecode
  cases hdecode

end Decode

end VoxelGrid.Batch
