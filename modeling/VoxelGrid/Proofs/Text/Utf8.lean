import Mathlib.Tactic.SplitIfs
import VoxelGrid.Text.Utf8

/-! Text and its UTF-8 octets. The octets of a character have the lead and the continuation octets
that the decoder asks for, so decoding what was encoded gives the text back. -/

namespace VoxelGrid.Utf8

variable {start : Nat} {a b c d : UInt8} {rest : List UInt8}

theorem not_lt_of_toNat_le (h : b.toNat ≤ a.toNat) : ¬ a < b :=
  fun hlt => Nat.not_lt.mpr h (UInt8.lt_iff_toNat_lt.mp hlt)

theorem isContinuation_iff : isContinuation b = true ↔ 0x80 ≤ b.toNat ∧ b.toNat < 0xC0 := by
  simp only [isContinuation, Bool.and_eq_true, decide_eq_true_eq, UInt8.le_iff_toNat_le,
    UInt8.lt_iff_toNat_lt]
  rfl

theorem mayFollow_of_bounds (hb : 0x80 ≤ b.toNat ∧ b.toNat < 0xC0)
    (hE0 : a.toNat = 0xE0 → 0xA0 ≤ b.toNat) (hED : a.toNat = 0xED → b.toNat < 0xA0)
    (hF0 : a.toNat = 0xF0 → 0x90 ≤ b.toNat) (hF4 : a.toNat = 0xF4 → b.toNat < 0x90) :
    mayFollow a b = true := by
  rw [mayFollow, isContinuation_iff.mpr hb, Bool.true_and]
  split_ifs with h h h h
  · exact decide_eq_true (UInt8.le_iff_toNat_le.mpr (hE0 (h ▸ rfl)))
  · exact decide_eq_true (UInt8.lt_iff_toNat_lt.mpr (hED (h ▸ rfl)))
  · exact decide_eq_true (UInt8.le_iff_toNat_le.mpr (hF0 (h ▸ rfl)))
  · exact decide_eq_true (UInt8.lt_iff_toNat_lt.mpr (hF4 (h ▸ rfl)))
  · rfl

theorem decodeFrom_one (ha : a.toNat < 0x80) :
    decodeFrom start (a :: rest) = (scalar a.toNat [] :: ·) <$> decodeFrom (start + 1) rest := by
  have h : a < 0x80 := UInt8.lt_iff_toNat_lt.mpr ha
  rw [decodeFrom.eq_def]
  simp only [h, if_true]

/-- The octet begins a sequence of several octets. -/
theorem lead_of_bounds (h : 0xC2 ≤ a.toNat) (h' : a.toNat ≤ 0xF4) :
    ¬ a < 0x80 ∧ ¬ (decide (a < 0xC2) || decide (0xF4 < a)) = true := by
  simp only [Bool.or_eq_true, decide_eq_true_eq, UInt8.lt_iff_toNat_lt]
  change ¬ a.toNat < 0x80 ∧ ¬ (a.toNat < 0xC2 ∨ 0xF4 < a.toNat)
  omega

theorem decodeFrom_two (h : 0xC2 ≤ a.toNat) (h' : a.toNat < 0xE0) (hb : mayFollow a b = true) :
    decodeFrom start (a :: b :: rest) =
      (scalar (a.toNat % 32) [b] :: ·) <$> decodeFrom (start + 2) rest := by
  obtain ⟨hone, hlead⟩ := lead_of_bounds h (by omega)
  have htwo : a < 0xE0 := UInt8.lt_iff_toNat_lt.mpr h'
  rw [decodeFrom.eq_def]
  simp only [if_neg hone, if_neg hlead, hb, Bool.not_true, Bool.false_eq_true, if_false, htwo,
    if_true]

theorem decodeFrom_three (h : 0xE0 ≤ a.toNat) (h' : a.toNat < 0xF0) (hb : mayFollow a b = true)
    (hc : isContinuation c = true) :
    decodeFrom start (a :: b :: c :: rest) =
      (scalar (a.toNat % 16) [b, c] :: ·) <$> decodeFrom (start + 3) rest := by
  obtain ⟨hone, hlead⟩ := lead_of_bounds (a := a) (by omega) (by omega)
  have htwo : ¬ a < 0xE0 := not_lt_of_toNat_le h
  have hthree : a < 0xF0 := UInt8.lt_iff_toNat_lt.mpr h'
  rw [decodeFrom.eq_def]
  simp only [if_neg hone, if_neg hlead, hb, hc, Bool.not_true, Bool.false_eq_true, if_false, htwo,
    hthree, if_true]

theorem decodeFrom_four (h : 0xF0 ≤ a.toNat) (h' : a.toNat ≤ 0xF4) (hb : mayFollow a b = true)
    (hc : isContinuation c = true) (hd : isContinuation d = true) :
    decodeFrom start (a :: b :: c :: d :: rest) =
      (scalar (a.toNat % 8) [b, c, d] :: ·) <$> decodeFrom (start + 4) rest := by
  obtain ⟨hone, hlead⟩ := lead_of_bounds (a := a) (by omega) h'
  have htwo : ¬ a < 0xE0 := not_lt_of_toNat_le (Nat.le_trans (by decide) h)
  have hthree : ¬ a < 0xF0 := not_lt_of_toNat_le h
  rw [decodeFrom.eq_def]
  simp only [if_neg hone, if_neg hlead, hb, hc, hd, Bool.not_true, Bool.false_eq_true, if_false,
    htwo, hthree]

theorem toNat_ofNat {n : Nat} (h : n < 256) : (UInt8.ofNat n).toNat = n :=
  UInt8.toNat_ofNat_of_lt' h

theorem isContinuation_ofNat (n : Nat) : isContinuation (.ofNat (n % 0x40 + 0x80)) = true := by
  rw [isContinuation_iff, toNat_ofNat (by omega)]
  omega

/-- A continuation octet gives back the six digits that were taken off for it. -/
theorem scalar_continuation (n : Nat) (tail : List UInt8) :
    scalar (n / 64) (.ofNat (n % 0x40 + 0x80) :: tail) = scalar n tail := by
  have hoctet := toNat_ofNat (n := n % 0x40 + 0x80) (by omega)
  have hpayload : n / 64 * 64 + (n % 0x40 + 0x80) % 64 = n := by omega
  rw [scalar, List.foldl_cons, hoctet, hpayload, scalar]

theorem scalar_toNat (x : Char) : scalar x.toNat [] = x := Char.ofNat_toNat x

theorem exists_decodeFrom_encodeChar (start : Nat) (x : Char) (rest : List UInt8) :
    ∃ n, decodeFrom start (String.utf8EncodeChar x ++ rest) =
      (x :: ·) <$> decodeFrom (start + n) rest := by
  have hvalid : x.toNat < 0xD800 ∨ 0xDFFF < x.toNat ∧ x.toNat < 0x110000 := x.valid
  have hval : x.val.toNat = x.toNat := rfl
  simp only [String.utf8EncodeChar, hval]
  -- One case for each length: what the lead octet holds, and then the continuations in order.
  split_ifs with hone htwo hthree
  · refine ⟨1, ?_⟩
    have ha := toNat_ofNat (n := x.toNat) (by omega)
    rw [List.singleton_append, decodeFrom_one (by omega), ha, scalar_toNat]
  · refine ⟨2, ?_⟩
    have ha := toNat_ofNat (n := x.toNat / 64 % 0x20 + 0xC0) (by omega)
    have hb := toNat_ofNat (n := x.toNat % 0x40 + 0x80) (by omega)
    have hlead : (UInt8.ofNat (x.toNat / 64 % 0x20 + 0xC0)).toNat % 32 = x.toNat / 64 := by omega
    rw [List.cons_append, List.singleton_append, decodeFrom_two (by omega) (by omega)
      (mayFollow_of_bounds (by omega) (by omega) (by omega) (by omega) (by omega)), hlead,
      scalar_continuation, scalar_toNat]
  · refine ⟨3, ?_⟩
    have ha := toNat_ofNat (n := x.toNat / 4096 % 0x10 + 0xE0) (by omega)
    have hb := toNat_ofNat (n := x.toNat / 64 % 0x40 + 0x80) (by omega)
    have hlead : (UInt8.ofNat (x.toNat / 4096 % 0x10 + 0xE0)).toNat % 16 = x.toNat / 64 / 64 := by
      omega
    rw [List.cons_append, List.cons_append, List.singleton_append,
      decodeFrom_three (by omega) (by omega)
      (mayFollow_of_bounds (by omega) (by omega) (by omega) (by omega) (by omega))
      (isContinuation_ofNat _), hlead, scalar_continuation, scalar_continuation, scalar_toNat]
  · refine ⟨4, ?_⟩
    have ha := toNat_ofNat (n := x.toNat / 262144 % 8 + 0xF0) (by omega)
    have hb := toNat_ofNat (n := x.toNat / 4096 % 0x40 + 0x80) (by omega)
    have hlead : (UInt8.ofNat (x.toNat / 262144 % 8 + 0xF0)).toNat % 8 = x.toNat / 4096 / 64 := by
      omega
    have hmiddle : x.toNat / 4096 = x.toNat / 64 / 64 := by omega
    rw [List.cons_append, List.cons_append, List.cons_append, List.singleton_append,
      decodeFrom_four (by omega) (by omega)
      (mayFollow_of_bounds (by omega) (by omega) (by omega) (by omega) (by omega))
      (isContinuation_ofNat _) (isContinuation_ofNat _), hlead, scalar_continuation, hmiddle,
      scalar_continuation, scalar_continuation, scalar_toNat]

theorem decodeFrom_encode (start : Nat) (text : List Char) :
    decodeFrom start (encode text) = .ok text := by
  induction text generalizing start with
  | nil => rw [encode, List.flatMap_nil, decodeFrom]
  | cons x text ih =>
    obtain ⟨n, hn⟩ := exists_decodeFrom_encodeChar start x (encode text)
    rw [encode, List.flatMap_cons, ← encode, hn, ih]
    rfl

theorem decode_encode (text : List Char) : decode (encode text) = .ok text :=
  decodeFrom_encode 0 text

end VoxelGrid.Utf8
