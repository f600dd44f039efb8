import Mathlib.Algebra.Order.Ring.Int
import VoxelGrid.Proofs.Json.Document

/-! Numbers of a document as the reader scans them. Each part of a numeral is a run of digits that
ends where the next part begins, so that the longest numeral is the one that was written. -/

namespace VoxelGrid.Json

/-- The text begins with no character of the kind. -/
def Stops (p : Char → Bool) (s : List Char) : Prop := ∀ c, s.head? = some c → p c = false

theorem stops_nil (p : Char → Bool) : Stops p [] := by
  intro c h
  cases h

theorem stops_cons {p : Char → Bool} {c : Char} (h : p c = false) (s : List Char) :
    Stops p (c :: s) := by
  rintro _ ⟨⟩
  exact h

theorem Stops.mono {p q : Char → Bool} {s : List Char} (h : Stops p s)
    (hpq : ∀ c, q c = true → p c = true) : Stops q s := by
  intro c hc
  have hp : ¬p c = true := Bool.eq_false_iff.mp (h c hc)
  exact Bool.eq_false_iff.mpr fun hq => hp (hpq c hq)

section Runs

variable {p : Char → Bool} {run rest : List Char}

theorem takeWhile_run (h : ∀ c ∈ run, p c = true) (hrest : Stops p rest) :
    (run ++ rest).takeWhile p = run := by
  have hnil : rest.takeWhile p = [] := by
    cases rest with
    | nil => rfl
    | cons c t => rw [List.takeWhile_cons_of_neg (by simp [hrest c rfl])]
  rw [List.takeWhile_append_of_pos h, hnil, List.append_nil]

theorem dropWhile_run (h : ∀ c ∈ run, p c = true) (hrest : Stops p rest) :
    (run ++ rest).dropWhile p = rest := by
  rw [List.dropWhile_append_of_pos h]
  cases rest with
  | nil => rfl
  | cons c t => rw [List.dropWhile_cons_of_neg (by simp [hrest c rfl])]

end Runs

theorem isDigit_toDigits (n : Nat) : ∀ c ∈ Nat.toDigits 10 n, c.isDigit = true :=
  fun _ => Nat.isDigit_of_mem_toDigits (by decide) (by decide)

theorem ne_of_isDigit {c w : Char} (hc : c.isDigit = true) (hw : w.isDigit = false) : c ≠ w := by
  rintro rfl
  cases hw.symm.trans hc

theorem toDigits_eq_cons (n : Nat) : ∃ c t, Nat.toDigits 10 n = c :: t ∧ c.isDigit = true := by
  obtain ⟨c, t, ht⟩ := List.exists_cons_of_ne_nil (Nat.toDigits_ne_nil (b := 10) (n := n))
  exact ⟨c, t, ht, isDigit_toDigits n c (ht ▸ List.mem_cons_self ..)⟩

theorem toDigits_eq_cons_of_pos {n : Nat} (h : 0 < n) :
    ∃ c t, Nat.toDigits 10 n = c :: t ∧ c ≠ '0' ∧ c.isDigit = true := by
  induction n using Nat.strongRecOn with
  | ind n ih =>
    by_cases hn : n < 10
    · have hdigit : ∀ m < 10, 0 < m → m.digitChar ≠ '0' ∧ m.digitChar.isDigit = true := by decide
      exact ⟨_, [], Nat.toDigits_of_lt_base hn, hdigit n hn h⟩
    · obtain ⟨c, t, ht, hc⟩ := ih (n / 10) (by omega) (by omega)
      exact ⟨c, t ++ [(n % 10).digitChar],
        by rw [Nat.toDigits_of_base_le (by decide) (by omega), ht, List.cons_append], hc⟩

namespace Numeral

variable {rest : List Char}

theorem takeWhole?_toDigits (n : Nat) (hrest : Stops Char.isDigit rest) :
    takeWhole? (Nat.toDigits 10 n ++ rest) = some (Nat.toDigits 10 n, rest) := by
  -- A zero at the start ends the whole part, so zero is read as itself and not as a run of digits.
  rcases Nat.eq_zero_or_pos n with rfl | hpos
  · rfl
  · obtain ⟨c, t, ht, hzero, hdigit⟩ := toDigits_eq_cons_of_pos hpos
    have hall := isDigit_toDigits n
    rw [ht] at hall ⊢
    rw [List.cons_append, takeWhole?, if_neg hzero, if_pos hdigit, ← List.cons_append,
      takeWhile_run hall hrest, dropWhile_run hall hrest]

theorem takeFraction_nil (hpoint : Stops (· = '.') rest) : takeFraction rest = ([], rest) := by
  cases rest with
  | nil => rfl
  | cons c t =>
    have hc : c ≠ '.' := by simpa using hpoint c rfl
    simp [takeFraction, hc]

theorem takeFraction_point {fraction : List Char} (hne : fraction ≠ [])
    (h : ∀ c ∈ fraction, c.isDigit = true) (hdigit : Stops Char.isDigit rest) :
    takeFraction ('.' :: fraction ++ rest) = (fraction, rest) := by
  obtain ⟨d, t, rfl⟩ := List.exists_cons_of_ne_nil hne
  simp only [List.cons_append, takeFraction]
  simp only [← List.cons_append, takeWhile_run h hdigit, dropWhile_run h hdigit]

theorem takeExponent_text (e : Exponent) (hdigit : Stops Char.isDigit rest) :
    takeExponent (e.text ++ rest) = (some (e.sign.isMinus, e.digits), rest) := by
  obtain ⟨capital, sign, digits, hne, hall⟩ := e
  obtain ⟨d, t, rfl⟩ := List.exists_cons_of_ne_nil hne
  have htake := takeWhile_run hall hdigit
  have hdrop := dropWhile_run hall hdigit
  have hd : d.isDigit = true := hall d (List.mem_cons_self ..)
  have hminus : d ≠ '-' := ne_of_isDigit hd (by decide)
  have hplus : d ≠ '+' := ne_of_isDigit hd (by decide)
  rw [List.cons_append] at htake hdrop
  cases capital <;> cases sign <;>
    simp [Exponent.text, ExponentSign.text, ExponentSign.isMinus, takeExponent, htake, hdrop,
      hminus, hplus]

theorem takeExponent_of_stops (h : Stops (fun c => c = 'e' || c = 'E') rest) :
    takeExponent rest = (none, rest) := by
  cases rest with
  | nil => rfl
  | cons c t =>
    have hc : ¬ (c = 'e' ∨ c = 'E') := by simpa using h c rfl
    simp only [takeExponent, if_neg hc]

theorem ofDigits_toDigits (n : Nat) : ofDigits (Nat.toDigits 10 n) = n :=
  Nat.ofDigitChars_ten_toDigits

end Numeral

/-- The characters that a numeral may go on with. -/
def continuesNumeral (c : Char) : Bool := c.isDigit || c = '.' || c = 'e' || c = 'E'

namespace Number

variable {rest : List Char} (n : Number)

/-- The first character of an exponent is neither a digit nor a point. -/
theorem stops_exponentText {p : Char → Bool} (hcapital : p 'E' = false) (hsmall : p 'e' = false)
    (h : Stops p rest) : Stops p (n.exponentText ++ rest) := by
  obtain ⟨-, -, -, -, - | ⟨capital, sign, digits, -, -⟩⟩ := n
  · exact h
  · cases capital
    · exact stops_cons hsmall _
    · exact stops_cons hcapital _

theorem stops_fractionText (h : Stops Char.isDigit rest) :
    Stops Char.isDigit (n.fractionText ++ rest) := by
  unfold fractionText
  split
  · exact h
  · exact stops_cons (by decide) _

theorem takeExponent_exponentText (h : Stops continuesNumeral rest) :
    Numeral.takeExponent (n.exponentText ++ rest) = (n.numeral.exponent, rest) := by
  obtain ⟨-, -, -, -, - | e⟩ := n
  · exact Numeral.takeExponent_of_stops (h.mono (by simp [continuesNumeral, or_assoc]))
  · exact Numeral.takeExponent_text e (h.mono (by simp +contextual [continuesNumeral]))

theorem takeFraction_fractionText (hdigit : Stops Char.isDigit rest)
    (hpoint : Stops (· = '.') rest) :
    Numeral.takeFraction (n.fractionText ++ rest) = (n.fraction, rest) := by
  unfold fractionText
  split
  · next h => rw [h, List.nil_append, Numeral.takeFraction_nil hpoint]
  · next h => exact Numeral.takeFraction_point h n.isDigit hdigit

/-- A number is read up to its end and no further. -/
theorem read?_text (h : Stops continuesNumeral rest) :
    Numeral.read? (n.text ++ rest) = some (n.numeral, rest) := by
  have hdigit : Stops Char.isDigit (n.exponentText ++ rest) :=
    n.stops_exponentText (by decide) (by decide) (h.mono (by simp +contextual [continuesNumeral]))
  have hpoint : Stops (· = '.') (n.exponentText ++ rest) :=
    n.stops_exponentText (by decide) (by decide) (h.mono (by simp +contextual [continuesNumeral]))
  have hwhole := Numeral.takeWhole?_toDigits n.whole (n.stops_fractionText hdigit)
  have hfraction := n.takeFraction_fractionText hdigit hpoint
  have hexponent := n.takeExponent_exponentText h
  simp only [text, Numeral.read?, List.append_assoc]
  cases hsign : n.negative with
  | true =>
    simp [hwhole, hfraction, hexponent, numeral, hsign]
  | false =>
    obtain ⟨c, t, ht, hc⟩ := toDigits_eq_cons n.whole
    have hminus : c ≠ '-' := ne_of_isDigit hc (by decide)
    rw [ht, List.cons_append] at hwhole
    simp [ht, hminus, hwhole, hfraction, hexponent, numeral, hsign]

/-- A number starts with a digit, or with a minus sign and a digit. -/
theorem text_eq_cons : ∃ d s, d.isDigit = true ∧ (n.text = d :: s ∨ n.text = '-' :: d :: s) := by
  obtain ⟨d, t, ht, hd⟩ := toDigits_eq_cons n.whole
  refine ⟨d, t ++ n.fractionText ++ n.exponentText, hd, ?_⟩
  cases hsign : n.negative with
  | true => simp [text, hsign, ht]
  | false => simp [text, hsign, ht]

theorem isInteger_numeral : n.numeral.isInteger = true ↔ n.IsInteger := by
  simp [numeral, Numeral.isInteger, IsInteger]

theorem value_numeral : n.numeral.value = n.value := by
  simp only [Numeral.value, value, isInteger_numeral]
  simp only [numeral, Numeral.ofDigits_toDigits]

theorem value_ofInt (n : Int) : (ofInt n).value = .int n := by
  rw [value, if_pos ⟨rfl, rfl⟩]
  simp only [ofInt, decide_eq_true_eq]
  congr 1
  split <;> omega

theorem fits_ofInt {n : Int} (h : n.natAbs < 10 ^ maxDigits) : (ofInt n).Fits :=
  fun _ => (Nat.length_toDigits_le_iff (by decide) (by decide)).mpr h

theorem not_fits_ofInt {n : Int} (h : 10 ^ maxDigits ≤ n.natAbs) : ¬(ofInt n).Fits := by
  intro hfits
  have hlt := (Nat.length_toDigits_le_iff (by decide) (by decide)).mp (hfits ⟨rfl, rfl⟩)
  exact Nat.not_lt.mpr h hlt

/-- An integer is written as a message shows it. -/
theorem text_ofInt (n : Int) : (ofInt n).text = (toString n).toList := by
  cases n with
  | ofNat n => simp [text, ofInt, fractionText, exponentText, Int.repr, Nat.toList_repr]
  | negSucc n => simp [text, ofInt, fractionText, exponentText, Int.repr, Nat.toList_repr]

end Number

end VoxelGrid.Json
