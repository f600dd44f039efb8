import VoxelGrid.Proofs.Json.Completeness
import VoxelGrid.Proofs.Text.Newline

/-! Line ends in documents. They stand in the white space only, for no token holds a control
character, so unifying them leaves every value as it is. -/

namespace VoxelGrid.Json

open Newline (unify)

theorem Exponent.return_notMem_text (e : Exponent) : '\r' ∉ e.text := by
  have hmark : '\r' ≠ (if e.capital then 'E' else 'e') := by cases e.capital <;> decide
  have hsign : '\r' ∉ e.sign.text := by cases e.sign <;> decide
  have hdigits : '\r' ∉ e.digits := fun h => ne_of_isDigit (e.isDigit _ h) rfl rfl
  simp only [text, List.mem_append, List.mem_cons, not_or]
  exact ⟨⟨hmark, hsign⟩, hdigits⟩

theorem Number.return_notMem_text (n : Number) : '\r' ∉ n.text := by
  have hsign : '\r' ∉ (if n.negative then ['-'] else []) := by cases n.negative <;> decide
  have hwhole : '\r' ∉ Nat.toDigits 10 n.whole := fun h =>
    ne_of_isDigit (isDigit_toDigits n.whole _ h) rfl rfl
  have hfraction : '\r' ∉ n.fractionText := by
    unfold fractionText
    split
    · exact List.not_mem_nil
    · rw [List.mem_cons, not_or]
      exact ⟨by decide, fun h => ne_of_isDigit (n.isDigit _ h) rfl rfl⟩
  have hexponent : '\r' ∉ n.exponentText := by
    unfold exponentText
    cases n.exponent with
    | none => exact List.not_mem_nil
    | some e => exact e.return_notMem_text
  simp only [text, List.mem_append, not_or]
  exact ⟨⟨⟨hsign, hwhole⟩, hfraction⟩, hexponent⟩

theorem Piece.return_notMem_text (p : Piece) : '\r' ∉ p.text := by
  have hhex (d : HexDigit) : '\r' ≠ d.char := by
    obtain ⟨value, capital⟩ := d
    revert value capital
    decide
  cases p with
  | plain c h =>
    rw [Piece.text, List.mem_singleton]
    rintro rfl
    exact absurd h.2.2 (by decide)
  | short e => cases e <;> decide
  | unit a b c d => simp [Piece.text, hhex]

theorem Literal.return_notMem_text (l : Literal) : '\r' ∉ l.text := by
  simp [Literal.text, Piece.return_notMem_text]

theorem keepsBlank_unify : KeepsBlank unify := by
  intro s c hc
  rw [isBlank_iff]
  obtain h | rfl := Newline.mem_unify hc
  · exact s.blank c h
  · exact .inr (.inr (.inl rfl))

theorem unify_mark (s : List Char) {mark : Char} (hreturn : mark ≠ '\r') (hfeed : mark ≠ '\n')
    (rest : List Char) : unify (s ++ mark :: rest) = unify s ++ mark :: unify rest := by
  rw [Newline.unify_append (by simpa using hfeed), Newline.unify_cons hreturn]

theorem Literal.unify_text (l : Literal) (rest : List Char) :
    unify (l.text ++ '"' :: rest) = l.text ++ '"' :: unify rest := by
  rw [Newline.unify_append_of_notMem l.return_notMem_text, Newline.unify_cons (by decide)]

theorem Tree.unify_blanks (t : Tree) (s : Space) (rest : List Char) :
    unify (s.chars ++ (t.spelled id ++ rest)) = unify s.chars ++ unify (t.spelled id ++ rest) := by
  obtain ⟨c, u, hu, hstart⟩ := t.spelled_eq_cons id
  apply Newline.unify_append
  rw [hu]
  rintro ⟨⟩
  revert hstart
  decide

-- White space is cut from the token after it: no token starts with a line feed, so none is taken into
-- a line end before it.
mutual

theorem Tree.unify_spelled (t : Tree) (rest : List Char) :
    unify (t.spelled id ++ rest) = t.spelled unify ++ unify rest := by
  match t with
  | .null => rfl
  | .bool true => rfl
  | .bool false => rfl
  | .number n => exact Newline.unify_append_of_notMem n.return_notMem_text
  | .string l =>
    simp only [Tree.spelled, List.append_assoc, List.cons_append, List.nil_append]
    rw [Newline.unify_cons (by decide), l.unify_text]
  | .emptyArray inside | .emptyObject inside =>
    simp only [Tree.spelled, id, List.append_assoc, List.cons_append, List.nil_append]
    rw [Newline.unify_cons (by decide), unify_mark _ (by decide) (by decide)]
  | .array items =>
    simp only [Tree.spelled, List.append_assoc, List.cons_append, List.nil_append]
    rw [Newline.unify_cons (by decide), items.unify_spelled]
  | .object members =>
    simp only [Tree.spelled, List.append_assoc, List.cons_append, List.nil_append]
    rw [Newline.unify_cons (by decide), members.unify_spelled]

theorem Items.unify_spelled (items : Items) (rest : List Char) :
    unify (items.spelled id ++ ']' :: rest) = items.spelled unify ++ ']' :: unify rest := by
  match items with
  | .last before item after =>
    simp only [Items.spelled, id, List.append_assoc]
    rw [item.unify_blanks, item.unify_spelled, unify_mark _ (by decide) (by decide)]
  | .cons before item after items =>
    simp only [Items.spelled, id, List.append_assoc, List.cons_append]
    rw [item.unify_blanks, item.unify_spelled, unify_mark _ (by decide) (by decide),
      items.unify_spelled]

theorem Members.unify_spelled (members : Members) (rest : List Char) :
    unify (members.spelled id ++ '}' :: rest) = members.spelled unify ++ '}' :: unify rest := by
  match members with
  | .last before name colon value after =>
    simp only [Members.spelled, id, List.append_assoc, List.cons_append]
    rw [unify_mark _ (by decide) (by decide), name.unify_text,
      unify_mark _ (by decide) (by decide), value.unify_blanks, value.unify_spelled,
      unify_mark _ (by decide) (by decide)]
  | .cons before name colon value after members =>
    simp only [Members.spelled, id, List.append_assoc, List.cons_append]
    rw [unify_mark _ (by decide) (by decide), name.unify_text,
      unify_mark _ (by decide) (by decide), value.unify_blanks, value.unify_spelled,
      unify_mark _ (by decide) (by decide), members.unify_spelled]

end

namespace Document

theorem unify_text (d : Document) :
    unify d.text = unify d.before.chars ++ d.root.spelled unify ++ unify d.after.chars := by
  rw [text, List.append_assoc, d.root.unify_blanks, d.root.unify_spelled, List.append_assoc]

/-- A document is read as its value, whatever its line ends are. -/
theorem read_text (d : Document) {depth : Nat} (h : d.root.Fits depth) :
    Json.read depth (unify d.text) = .ok d.root.value := by
  have hwhole := readWhole_spelled keepsBlank_unify d.before d.after d.root depth h
  rw [Json.read, d.unify_text, hwhole]
  rfl

theorem read_limit (d : Document) {depth : Nat} (h : ¬d.root.Fits depth) :
    ∃ fault, Json.read depth (unify d.text) = .error fault ∧ fault.IsLimit := by
  obtain ⟨e, he, hlimit⟩ := readWhole_limit keepsBlank_unify d.before d.after d.root depth h
  refine ⟨e.locate (unify d.text), ?_, Refusal.isLimit_locate hlimit _⟩
  rw [Json.read, d.unify_text, he]
  rfl

end Document

end VoxelGrid.Json
