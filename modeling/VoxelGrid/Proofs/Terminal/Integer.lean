import Mathlib.Data.List.DropRight
import VoxelGrid.Proofs.Error
import VoxelGrid.Proofs.Json.Numeral
import VoxelGrid.Terminal.Integer

/-! Integers as arguments. The decimal form of an integer is read as that integer unless it is too
long, and whatever is read as one has no letter in it and can be written again. -/

namespace VoxelGrid

namespace Blank

theorem isBlank_of_isDigit {c : Char} (h : c.isDigit = true) : isBlank c = false := by
  have hbounds : 48 ≤ c.toNat ∧ c.toNat ≤ 57 := Char.isDigit_iff_toNat.mp h
  simp only [isBlank, runs, List.any_cons, List.any_nil, Bool.or_false, Bool.or_eq_false_iff,
    Bool.and_eq_false_iff, decide_eq_false_iff_not]
  omega

/-- Text without a blank has none to lose. -/
theorem trim_eq_self {text : List Char} (h : ∀ c ∈ text, isBlank c = false) : trim text = text := by
  have hdrop {s : List Char} (hs : ∀ c ∈ s, isBlank c = false) : s.dropWhile isBlank = s := by
    cases s with
    | nil => rfl
    | cons c s => exact List.dropWhile_cons_of_neg (by simp [hs c (List.mem_cons_self ..)])
  rw [trim, hdrop h, hdrop (fun c hc => h c (List.mem_reverse.mp hc)), List.reverse_reverse]

theorem trim_sublist (text : List Char) : (trim text).Sublist text := by
  have hdrop (s : List Char) : (s.dropWhile isBlank).Sublist s := (List.dropWhile_suffix _).sublist
  have hback := (hdrop (text.dropWhile isBlank).reverse).reverse
  rw [List.reverse_reverse] at hback
  exact hback.trans (hdrop text)

/-- Only blanks are lost behind a character that is none. -/
theorem trim_cons {c : Char} (h : isBlank c = false) (text : List Char) :
    trim (c :: text) = c :: text.rdropWhile isBlank := by
  have hc : (c :: text).dropWhile isBlank = c :: text :=
    List.dropWhile_cons_of_neg (by simp [h])
  rw [trim, hc, List.rdropWhile, List.reverse_cons, List.dropWhile_append]
  split
  · next hnil =>
    rw [List.isEmpty_iff.mp hnil, List.dropWhile_cons_of_neg (by simp [h])]
    rfl
  · rw [List.reverse_append]
    rfl

end Blank

namespace Terminal

/-! The decimal form -/

section Decimal

theorem digits?_of_isDigit {digits : List Char} (h : ∀ c ∈ digits, c.isDigit = true)
    (value : Nat) : digits? value digits = some (Nat.ofDigitChars 10 digits value) := by
  induction digits generalizing value with
  | nil => rfl
  | cons c digits ih =>
    unfold digits?
    rw [if_pos (h c (List.mem_cons_self ..)), ih fun d hd => h d (List.mem_cons_of_mem _ hd),
      Nat.ofDigitChars_cons]

variable (n : Nat)

theorem natural?_toDigits : natural? (Nat.toDigits 10 n) = some n := by
  have hvalue := Nat.ofDigitChars_ten_toDigits (n := n)
  obtain ⟨c, digits, hdigits, hc⟩ := Json.toDigits_eq_cons n
  have hall := Json.isDigit_toDigits n
  rw [hdigits] at hvalue hall ⊢
  rw [natural?, if_pos hc, digits?_of_isDigit fun d hd => hall d (List.mem_cons_of_mem _ hd)]
  rw [Nat.ofDigitChars_cons, Nat.mul_zero, Nat.zero_add] at hvalue
  rw [hvalue]

theorem significant?_toDigits : significant? (Nat.toDigits 10 n) = some (Nat.toDigits 10 n) := by
  rcases Nat.eq_zero_or_pos n with rfl | hpos
  · rfl
  obtain ⟨c, digits, hdigits, hzero, hc⟩ := Json.toDigits_eq_cons_of_pos hpos
  have hunderscore : c ≠ '_' := Json.ne_of_isDigit hc (by decide)
  have hpoint : c ≠ '.' := Json.ne_of_isDigit hc (by decide)
  have hleading : isLeading c = false := by simp [isLeading, hzero, hunderscore]
  simp [hdigits, significant?, hleading, hpoint]

theorem whole?_toDigits : whole? (Nat.toDigits 10 n) = some (Nat.toDigits 10 n) := by
  have hnone : (Nat.toDigits 10 n).dropWhile (· ≠ '.') = [] := by
    rw [List.dropWhile_eq_nil_iff]
    intro c hc
    simpa using Json.ne_of_isDigit (w := '.') (Json.isDigit_toDigits n c hc) (by decide)
  rw [whole?, hnone]

theorem unsigned?_toDigits : unsigned? (Nat.toDigits 10 n) = some n := by
  simp only [unsigned?, significant?_toDigits, Option.bind_eq_bind, Option.bind_some,
    whole?_toDigits, natural?_toDigits]

theorem signed?_toDigits : signed? (Nat.toDigits 10 n) = some (n : Int) := by
  have hnatural := natural?_toDigits n
  obtain ⟨c, digits, hdigits, hc⟩ := Json.toDigits_eq_cons n
  have hminus : c ≠ '-' := Json.ne_of_isDigit hc (by decide)
  have hwhole : (significant? (Nat.toDigits 10 n) >>= whole?) = some (c :: digits) := by
    rw [significant?_toDigits, ← hdigits]
    exact whole?_toDigits n
  rw [hdigits] at hnatural
  simp [signed?, hwhole, hminus, hnatural]

end Decimal

theorem toList_toString_ne_nil (n : Int) : (toString n).toList ≠ [] := by
  rcases le_or_gt 0 n with h | h
  · rw [toList_toString_of_nonneg h]
    exact Nat.toDigits_ne_nil
  · rw [toList_toString_of_neg h]
    exact List.cons_ne_nil _ _

/-- What is read is what was written, whatever its sign. -/
theorem spelled?_toString (n : Int) : spelled? (toString n) = some n := by
  have hdigit : ∀ c ∈ Nat.toDigits 10 n.natAbs, Blank.isBlank c = false :=
    fun c hc => Blank.isBlank_of_isDigit (Json.isDigit_toDigits _ c hc)
  rcases le_or_gt 0 n with h | h
  · have hsigned := signed?_toDigits n.natAbs
    obtain ⟨c, digits, hdigits, hc⟩ := Json.toDigits_eq_cons n.natAbs
    have hminus : c ≠ '-' := Json.ne_of_isDigit hc (by decide)
    have hplus : c ≠ '+' := Json.ne_of_isDigit hc (by decide)
    rw [spelled?, toList_toString_of_nonneg h, Blank.trim_eq_self hdigit]
    rw [hdigits, Int.natAbs_of_nonneg h] at hsigned
    simpa [hdigits, hminus, hplus] using hsigned
  · have hblank : ∀ c ∈ '-' :: Nat.toDigits 10 n.natAbs, Blank.isBlank c = false := by
      rw [List.forall_mem_cons]
      exact ⟨rfl, hdigit⟩
    have hvalue : -(n.natAbs : Int) = n := by omega
    rw [spelled?, toList_toString_of_neg h, Blank.trim_eq_self hblank]
    simp only [unsigned?_toDigits]
    change some (-(n.natAbs : Int)) = some n
    rw [hvalue]

/-! The characters of an integer -/

/-- A character that may stand behind the sign of an integer, blanks after it apart. -/
def isNumeral (c : Char) : Bool := c.isDigit || c = '_' || c = '.'

section Characters

variable {text rest : List Char} {value n : Nat}

theorem isNumeral_of_digits? (h : digits? value text = some n) : ∀ c ∈ text, isNumeral c = true := by
  fun_induction digits? value text with
  | case1 => simp
  | case2 value c rest hc ih => simpa [isNumeral, hc] using ih h
  | case3 value d rest hd _ ih => simpa [isNumeral, hd] using ih h
  | case4 => cases h
  | case5 => cases h

theorem isNumeral_of_natural? (h : natural? text = some n) : ∀ c ∈ text, isNumeral c = true := by
  cases text with
  | nil => cases h
  | cons c rest =>
    rw [natural?] at h
    split at h
    · next hc => simpa [isNumeral, hc] using isNumeral_of_digits? h
    · cases h

theorem isNumeral_of_whole? (h : whole? text = some rest) (hrest : ∀ c ∈ rest, isNumeral c = true) :
    ∀ c ∈ text, isNumeral c = true := by
  have hsplit := List.takeWhile_append_dropWhile (p := (· ≠ '.')) (l := text)
  rw [whole?] at h
  split at h
  · cases h
    exact hrest
  · next point fraction hdrop =>
    have hpoint : point = '.' := by
      have hhead := List.head?_dropWhile_not (· ≠ '.') text
      rw [hdrop] at hhead
      simpa using hhead
    split at h
    · next hfraction =>
      cases h
      have hzeros : ∀ c ∈ fraction, c = '0' := by simpa using hfraction.2
      rw [← hsplit, hdrop, hpoint]
      simp only [List.forall_mem_append, List.forall_mem_cons]
      refine ⟨hrest, rfl, fun c hc => ?_⟩
      rw [hzeros c hc]
      rfl
    · cases h

theorem isNumeral_of_significant? (h : significant? text = some rest)
    (hrest : ∀ c ∈ rest, isNumeral c = true) : ∀ c ∈ text, isNumeral c = true := by
  have hzeros : ∀ c ∈ text.takeWhile isLeading, isNumeral c = true := by
    intro c hc
    rcases (by simpa [isLeading] using List.mem_takeWhile_imp hc : c = '0' ∨ c = '_') with rfl | rfl
    · rfl
    · rfl
  rw [← List.takeWhile_append_dropWhile (p := isLeading) (l := text), List.forall_mem_append]
  refine ⟨hzeros, ?_⟩
  simp only [significant?] at h
  split at h
  · cases h
  split at h
  · next hdrop => simp [hdrop]
  · next c tail hdrop =>
    rw [hdrop]
    split at h
    · cases h
    split at h
    · cases h
      exact fun d hd => hrest d (List.mem_cons_of_mem _ hd)
    · cases h
      exact hrest

theorem isNumeral_of_unsigned? (h : unsigned? text = some n) :
    text ≠ [] ∧ ∀ c ∈ text, isNumeral c = true := by
  constructor
  · rintro rfl
    cases h
  · simp only [unsigned?, Option.bind_eq_bind, Option.bind_eq_some_iff] at h
    obtain ⟨numeral, ⟨rest, hsignificant, hwhole⟩, hnatural⟩ := h
    have hnumeral := isNumeral_of_natural? hnatural
    exact isNumeral_of_significant? hsignificant (isNumeral_of_whole? hwhole hnumeral)

/-- Behind a hyphen an integer has a numeral, and blanks may follow it. -/
theorem numeral_of_spelled? {argument : String} {n : Int} (h : spelled? argument = some n)
    (hhyphen : argument.toList = '-' :: rest) :
    rest.head?.any isNumeral = true ∧ ∀ c ∈ rest, isNumeral c = true ∨ Blank.isBlank c = true := by
  have htrim : Blank.trim argument.toList = '-' :: rest.rdropWhile Blank.isBlank := by
    rw [hhyphen]
    exact Blank.trim_cons rfl rest
  simp only [spelled?, htrim, Option.map_eq_some_iff, Option.bind_eq_bind,
    Option.bind_eq_some_iff] at h
  obtain ⟨-, ⟨k, hunsigned, -⟩, -⟩ := h
  obtain ⟨hne, hnumeral⟩ := isNumeral_of_unsigned? hunsigned
  have hsplit := List.rdropWhile_append_rtakeWhile (p := Blank.isBlank) (l := rest)
  obtain ⟨c, numeral, hcons⟩ := List.exists_cons_of_ne_nil hne
  rw [hcons] at hnumeral hsplit
  rw [← hsplit]
  constructor
  · simpa using hnumeral c (List.mem_cons_self ..)
  · intro d hd
    rcases List.mem_append.mp hd with hd | hd
    · exact .inl (hnumeral d hd)
    · exact .inr (List.mem_rtakeWhile_imp hd)

end Characters

/-! The number of digits -/

section Digits

variable {text rest : List Char} {value n : Nat}

theorem toNat_sub_zero_lt {c : Char} (h : c.isDigit = true) : c.toNat - '0'.toNat < 10 := by
  have hbounds : 48 ≤ c.toNat ∧ c.toNat ≤ 57 := Char.isDigit_iff_toNat.mp h
  have hzero : '0'.toNat = 48 := rfl
  omega

/-- A digit makes the value at most ten times as large. -/
theorem succ_mul_pow_le {c : Char} (h : c.isDigit = true) (value count : Nat) :
    (10 * value + (c.toNat - '0'.toNat) + 1) * 10 ^ count ≤ (value + 1) * 10 ^ (count + 1) := by
  have hdigit := toNat_sub_zero_lt h
  calc (10 * value + (c.toNat - '0'.toNat) + 1) * 10 ^ count
      ≤ ((value + 1) * 10) * 10 ^ count := Nat.mul_le_mul_right _ (by omega)
    _ = (value + 1) * 10 ^ (count + 1) := by rw [Nat.pow_succ, Nat.mul_assoc, Nat.mul_comm 10]

theorem lt_of_digits? (h : digits? value text = some n) :
    n < (value + 1) * 10 ^ text.countP Char.isDigit := by
  fun_induction digits? value text with
  | case1 value =>
    cases h
    simp
  | case2 value c rest hc ih =>
    rw [List.countP_cons_of_pos hc]
    exact (ih h).trans_le (succ_mul_pow_le hc value _)
  | case3 value d rest hd _ ih =>
    rw [List.countP_cons_of_neg (by decide), List.countP_cons_of_pos hd]
    exact (ih h).trans_le (succ_mul_pow_le hd value _)
  | case4 => cases h
  | case5 => cases h

theorem lt_of_natural? (h : natural? text = some n) : n < 10 ^ text.countP Char.isDigit := by
  cases text with
  | nil => cases h
  | cons c rest =>
    rw [natural?] at h
    split at h
    · next hc =>
      have hstep := succ_mul_pow_le hc 0 (rest.countP Char.isDigit)
      have hlt := lt_of_digits? h
      rw [List.countP_cons_of_pos hc]
      rw [Nat.mul_zero, Nat.zero_add, Nat.zero_add, Nat.one_mul] at hstep
      exact hlt.trans_le hstep
    · cases h

theorem whole?_sublist (h : whole? text = some rest) : rest.Sublist text := by
  rw [whole?] at h
  split at h
  · cases h
    exact List.Sublist.refl _
  · split at h
    · cases h
      exact (List.takeWhile_prefix _).sublist
    · cases h

/-- The zero that stays is one of those that lead. -/
theorem significant?_sublist (h : significant? text = some rest) : rest.Sublist text := by
  have hsplit := List.takeWhile_append_dropWhile (p := isLeading) (l := text)
  have hzero (hlast : (text.takeWhile isLeading).getLast? = some '0') :
      ['0'].Sublist (text.takeWhile isLeading) :=
    List.singleton_sublist.mpr (List.mem_of_getLast? hlast)
  rw [← hsplit]
  simp only [significant?] at h
  split at h
  · cases h
  split at h
  · split at h
    · next hlast =>
      cases h
      exact (hzero hlast).trans (List.sublist_append_left ..)
    · cases h
  · next c tail hdrop =>
    rw [hdrop]
    split at h
    · cases h
    · next hpoint =>
      split at h
      · next hc =>
        cases h
        have hlast : (text.takeWhile isLeading).getLast? = some '0' := by
          by_contra hne
          exact hpoint ⟨hc, hne⟩
        exact (hzero hlast).append (List.Sublist.refl _)
      · cases h
        exact List.sublist_append_right ..

theorem lt_pow_of_sublist (hsub : rest.Sublist text) (h : n < 10 ^ rest.countP Char.isDigit) :
    n < 10 ^ text.countP Char.isDigit :=
  h.trans_le (Nat.pow_le_pow_right (by decide) (hsub.countP_le))

theorem lt_of_late? (h : late? text = some n) : n < 10 ^ text.countP Char.isDigit := by
  have hsub : (if text.head? = some '_' then text.drop 1 else text).Sublist text := by
    split
    · exact List.drop_sublist ..
    · exact List.Sublist.refl _
  simp only [late?] at h
  generalize (if text.head? = some '_' then text.drop 1 else text) = numeral at h hsub
  split at h
  · cases h
  · exact lt_pow_of_sublist hsub (lt_of_natural? h)

theorem lt_of_unsigned? (h : unsigned? text = some n) : n < 10 ^ text.countP Char.isDigit := by
  simp only [unsigned?, Option.bind_eq_bind, Option.bind_eq_some_iff] at h
  obtain ⟨numeral, ⟨rest, hsignificant, hwhole⟩, hnatural⟩ := h
  exact lt_pow_of_sublist ((whole?_sublist hwhole).trans (significant?_sublist hsignificant))
    (lt_of_natural? hnatural)

theorem natAbs_lt_of_neg {numeral : Option Nat} {bound : Nat} {n : Int}
    (h : (numeral.map fun k => -(k : Int)) = some n) (hbound : ∀ k, numeral = some k → k < bound) :
    n.natAbs < bound := by
  cases numeral with
  | none => cases h
  | some k =>
    cases h
    simpa using hbound k rfl

theorem natAbs_lt_of_signed? {n : Int} (h : signed? text = some n) :
    n.natAbs < 10 ^ text.countP Char.isDigit := by
  have hsub {numeral : List Char} (h : (significant? text >>= whole?) = some numeral) :
      numeral.Sublist text := by
    obtain ⟨rest, hsignificant, hwhole⟩ := Option.bind_eq_some_iff.mp h
    exact (whole?_sublist hwhole).trans (significant?_sublist hsignificant)
  rw [signed?] at h
  split at h
  · next late hnumeral =>
    split at h
    · cases h
    · refine natAbs_lt_of_neg h fun k hlate => ?_
      exact lt_pow_of_sublist ((List.sublist_cons_self ..).trans (hsub hnumeral)) (lt_of_late? hlate)
  · next numeral hnumeral =>
    obtain ⟨k, hnatural, rfl⟩ := Option.map_eq_some_iff.mp h
    exact lt_pow_of_sublist (hsub hnumeral) (lt_of_natural? hnatural)
  · cases h

theorem natAbs_lt_of_spelled? {argument : String} {n : Int} (h : spelled? argument = some n) :
    n.natAbs < 10 ^ argument.toList.countP Char.isDigit := by
  have htrim : (Blank.trim argument.toList).Sublist argument.toList := Blank.trim_sublist _
  rw [spelled?] at h
  split at h
  · next rest hminus =>
    rw [hminus] at htrim
    refine natAbs_lt_of_neg h fun k hunsigned => ?_
    exact lt_pow_of_sublist ((List.sublist_cons_self ..).trans htrim) (lt_of_unsigned? hunsigned)
  · next rest hplus =>
    rw [hplus] at htrim
    exact lt_pow_of_sublist ((List.sublist_cons_self ..).trans htrim) (natAbs_lt_of_signed? h)
  · exact lt_pow_of_sublist htrim (natAbs_lt_of_signed? h)

end Digits

section Limit

variable {argument : String} {n : Int}

theorem spelled?_of_integer? (h : integer? argument = some n) : spelled? argument = some n := by
  rw [integer?] at h
  split at h
  · cases h
  · exact h

/-- What is read has as many digits as were typed, or fewer. -/
theorem hasNumeral_of_integer? (h : integer? argument = some n) : HasNumeral n := by
  have hlt := natAbs_lt_of_spelled? (spelled?_of_integer? h)
  rw [integer?] at h
  split at h
  · cases h
  · next hcount => exact hasNumeral_of_lt _ (Nat.not_lt.mp hcount) hlt

theorem countP_isDigit_toString (n : Int) :
    (toString n).toList.countP Char.isDigit = (Nat.toDigits 10 n.natAbs).length := by
  have hdigits : (Nat.toDigits 10 n.natAbs).countP Char.isDigit = (Nat.toDigits 10 n.natAbs).length :=
    List.countP_eq_length.mpr (Json.isDigit_toDigits _)
  rcases le_or_gt 0 n with h | h
  · rw [toList_toString_of_nonneg h, hdigits]
  · rw [toList_toString_of_neg h, List.countP_cons_of_neg (by decide), hdigits]

/-- An integer is read back from its decimal form if that is not too long. -/
theorem integer?_toString (n : Int) :
    integer? (toString n) = if HasNumeral n then some n else none := by
  rw [integer?, countP_isDigit_toString, spelled?_toString]
  simp only [← not_le, ← hasNumeral_iff_length, ite_not]

theorem integer?_toString_of_hasNumeral (h : HasNumeral n) : integer? (toString n) = some n := by
  rw [integer?_toString, if_pos h]

end Limit

end Terminal

end VoxelGrid
