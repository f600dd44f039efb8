import VoxelGrid.Proofs.Json.Document

/-! Strings of a document as the reader scans them, one piece after the other. -/

namespace VoxelGrid.Json

theorem HexDigit.hexValue?_char (d : HexDigit) :
    StringLiteral.hexValue? d.char = some d.value.val := by
  obtain ⟨value, capital⟩ := d
  revert value capital
  decide

theorem ShortEscape.shortEscape?_letter (e : ShortEscape) :
    StringLiteral.shortEscape? e.letter = some e.char := by
  cases e <;> rfl

theorem ShortEscape.letter_ne_u (e : ShortEscape) : e.letter ≠ 'u' := by
  cases e <;> decide

theorem Literal.text_cons (p : Piece) (l : Literal) :
    Literal.text (p :: l) = p.text ++ Literal.text l := List.flatMap_cons

theorem Literal.text_plain {name : String} (h : name.toList.all (IsPlain ·) = true) :
    (plain name).text = name.toList := by
  rw [plain, text]
  generalize name.toList = s at h ⊢
  induction s with
  | nil => rfl
  | cons c s ih =>
    rw [List.all_cons, Bool.and_eq_true, decide_eq_true_eq] at h
    rw [List.filterMap_cons, dif_pos h.1, List.flatMap_cons, ih h.2]
    rfl

namespace StringLiteral

theorem unit?_hexDigits (a b c d : HexDigit) :
    ∃ u, unit? a.char b.char c.char d.char = some u ∧
      .ofUnit u = (Piece.unit a b c d).codePoint := by
  refine ⟨.ofNat (((a.value * 16 + b.value) * 16 + c.value) * 16 + d.value), ?_, ?_⟩
  · simp [unit?, HexDigit.hexValue?_char, Nat.mul_comm]
  · simp only [CodePoint.ofUnit, Piece.codePoint, CodePoint.mk.injEq, UInt16.toNat_ofNat']
    apply Nat.mod_eq_of_lt
    omega

theorem readUnits_quote (opening : Nat) (rest : List Char) :
    readUnits opening ('"' :: rest) = .ok ([], rest) := by
  rw [readUnits.eq_def]
  exact if_pos rfl

/-- A piece is read as its code point wherever the text goes on after it. -/
theorem readUnits_piece (opening : Nat) (p : Piece) {s : List Char} (hs : s ≠ []) :
    readUnits opening (p.text ++ s) =
      (fun (t, r) => (p.codePoint :: t, r)) <$> readUnits opening s := by
  cases p with
  | plain c h =>
    obtain ⟨hquote, hbackslash, hcontrol⟩ := h
    simp only [Piece.text, List.cons_append, List.nil_append]
    rw [readUnits.eq_def]
    simp only [if_neg hquote, if_neg hbackslash, if_neg (Nat.not_lt.mpr hcontrol)]
    rfl
  | short e =>
    simp only [Piece.text, List.cons_append, List.nil_append]
    rw [readUnits.eq_def]
    simp only [if_neg (show '\\' ≠ '"' by decide), if_true, if_neg e.letter_ne_u,
      e.shortEscape?_letter]
    rfl
  | unit a b c d =>
    obtain ⟨u, hu, hcode⟩ := unit?_hexDigits a b c d
    have hmore : s.isEmpty = false := by simpa using hs
    simp only [Piece.text, List.cons_append, List.nil_append]
    rw [readUnits.eq_def]
    simp only [if_neg (show '\\' ≠ '"' by decide), if_true, hu, hmore, hcode, Bool.false_eq_true,
      if_false]

theorem readUnits_text (opening : Nat) (l : Literal) (rest : List Char) :
    readUnits opening (l.text ++ '"' :: rest) = .ok (l.codePoints, rest) := by
  induction l with
  | nil => exact readUnits_quote opening rest
  | cons p l ih =>
    have hs : Literal.text l ++ '"' :: rest ≠ [] := by simp
    rw [Literal.text_cons, List.append_assoc, readUnits_piece opening p hs, ih]
    rfl

theorem read_text (opening : Nat) (l : Literal) (rest : List Char) :
    read opening (l.text ++ '"' :: rest) = .ok (l.value, rest) := by
  rw [read, readUnits_text]
  rfl

end StringLiteral

end VoxelGrid.Json
