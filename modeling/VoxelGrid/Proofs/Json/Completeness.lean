import VoxelGrid.Proofs.Json.Reader

/-! Every document is read. The reader goes along the tree of the document, and only a limit can
make it stop before the end: a number's digits, or the depth of its containers. -/

namespace VoxelGrid.Json

section Trees

variable {f : List Char → List Char} {rest : List Char}

/-- What white space is rewritten to is white space. -/
def KeepsBlank (f : List Char → List Char) : Prop :=
  ∀ s : Space, ∀ c ∈ f s.chars, isBlank c = true

theorem isBlank_iff {c : Char} : isBlank c = true ↔ c = ' ' ∨ c = '\t' ∨ c = '\n' ∨ c = '\r' := by
  simp [isBlank, or_assoc]

theorem stops_blanks {p : Char → Bool} (hp : ∀ c, isBlank c = true → p c = false)
    {blanks : List Char} (h : ∀ c ∈ blanks, isBlank c = true) (hrest : Stops p rest) :
    Stops p (blanks ++ rest) := by
  cases blanks with
  | nil => exact hrest
  | cons c t => exact stops_cons (hp c (h c (List.mem_cons_self ..))) _

theorem continuesNumeral_of_isBlank (c : Char) (h : isBlank c = true) :
    continuesNumeral c = false := by
  obtain rfl | rfl | rfl | rfl := isBlank_iff.mp h
  all_goals decide

/-- The characters that a value may start with. -/
def startsValue (c : Char) : Bool :=
  c.isDigit || c = '-' || c = '"' || c = '[' || c = '{' || c = 'n' || c = 't' || c = 'f'

theorem startsValue_of_isBlank {c : Char} (h : isBlank c = true) : startsValue c = false := by
  obtain rfl | rfl | rfl | rfl := isBlank_iff.mp h
  all_goals decide

theorem Tree.spelled_eq_cons (f : List Char → List Char) (t : Tree) :
    ∃ c s, t.spelled f = c :: s ∧ startsValue c = true := by
  cases t with
  | bool b => cases b <;> exact ⟨_, _, rfl, by decide⟩
  | number n =>
    obtain ⟨d, s, hd, hs | hs⟩ := n.text_eq_cons
    · exact ⟨d, s, hs, by simp [startsValue, hd]⟩
    · exact ⟨'-', d :: s, hs, by decide⟩
  | _ => exact ⟨_, _, rfl, by decide⟩

theorem Tree.skipBlank_spelled (t : Tree) {blanks : List Char}
    (h : ∀ c ∈ blanks, isBlank c = true) :
    skipBlank (blanks ++ (t.spelled f ++ rest)) = t.spelled f ++ rest := by
  obtain ⟨c, s, hs, hstart⟩ := t.spelled_eq_cons f
  have hblank : isBlank c = false := by
    rw [Bool.eq_false_iff]
    intro hblank
    rw [startsValue_of_isBlank hblank] at hstart
    cases hstart
  rw [hs]
  exact dropWhile_run h (stops_cons hblank _)

theorem Tree.dropWord?_spelled (t : Tree) : dropWord? [']'] (t.spelled f ++ rest) = none := by
  obtain ⟨c, s, hs, hstart⟩ := t.spelled_eq_cons f
  have hclose : ']' ≠ c := by rintro rfl; revert hstart; decide
  rw [hs, List.cons_append, dropWord?_eq_none hclose]

/-- White space before the mark that ends an item or a member. -/
theorem skipBlank_mark (hf : KeepsBlank f) (s : Space) {mark : Char} (h : isBlank mark = false) :
    skipBlank (f s.chars ++ mark :: rest) = mark :: rest :=
  dropWhile_run (hf s) (stops_cons h _)

theorem stops_mark (hf : KeepsBlank f) (s : Space) {mark : Char}
    (h : continuesNumeral mark = false) : Stops continuesNumeral (f s.chars ++ mark :: rest) :=
  stops_blanks continuesNumeral_of_isBlank (hf s) (stops_cons h _)

theorem Items.skipBlank_spelled (hf : KeepsBlank f) (items : Items) (rest : List Char) :
    ∃ (t : Tree) (s : List Char), skipBlank (items.spelled f ++ rest) = t.spelled f ++ s := by
  cases items with
  | last before item after =>
    refine ⟨item, f after.chars ++ rest, ?_⟩
    rw [Items.spelled, List.append_assoc, List.append_assoc]
    exact item.skipBlank_spelled (hf before)
  | cons before item after items =>
    refine ⟨item, f after.chars ++ ',' :: items.spelled f ++ rest, ?_⟩
    simp only [Items.spelled, List.append_assoc]
    exact item.skipBlank_spelled (hf before)

theorem Members.skipBlank_spelled (hf : KeepsBlank f) (members : Members) (rest : List Char) :
    ∃ s, skipBlank (members.spelled f ++ rest) = '"' :: s := by
  have hquote (before : Space) (s : List Char) :
      ∃ t, skipBlank (f before.chars ++ '"' :: s) = '"' :: t :=
    ⟨s, skipBlank_mark hf before (by decide)⟩
  cases members with
  | last before name colon value after =>
    simp only [Members.spelled, List.append_assoc, List.cons_append]
    exact hquote before _
  | cons before name colon value after members =>
    simp only [Members.spelled, List.append_assoc, List.cons_append]
    exact hquote before _

-- The induction is on the tree. What follows a value must not go on with a numeral, or a number at
-- the value's end would be read too far; a blank, a comma or a bracket's end never does.
mutual

/-- A value is read up to its end, or refused for a limit that it does not keep to. -/
theorem Tree.readValue_spelled (hf : KeepsBlank f) (t : Tree) (depth : Nat) (rest : List Char)
    (h : Stops continuesNumeral rest) :
    Gives (readValue depth (t.spelled f ++ rest)) (t.Fits depth) t.value rest := by
  match t with
  | .null => exact readValue_null depth
  | .bool true => exact readValue_true depth
  | .bool false => exact readValue_false depth
  | .number n => exact readValue_number n depth h
  | .string l =>
    have htext : (Tree.string l).spelled f ++ rest = '"' :: (l.text ++ '"' :: rest) := by
      simp [Tree.spelled]
    rw [htext]
    exact readValue_string depth l
  | .emptyArray inside =>
    have htext : (Tree.emptyArray inside).spelled f ++ rest =
        '[' :: (f inside.chars ++ ']' :: rest) := by simp [Tree.spelled]
    rw [htext]
    exact (readValue_array (.empty (skipBlank_mark hf inside (by decide)))).of_and_true
  | .array items =>
    have htext : (Tree.array items).spelled f ++ rest =
        '[' :: (items.spelled f ++ ']' :: rest) := by simp [Tree.spelled]
    have hitems := items.readItems_spelled hf (depth - 1) rest
    obtain ⟨item, s, hskip⟩ := items.skipBlank_spelled hf (']' :: rest)
    rw [htext]
    exact readValue_array (.entries (hskip ▸ item.dropWord?_spelled) hitems)
  | .emptyObject inside =>
    have htext : (Tree.emptyObject inside).spelled f ++ rest =
        '{' :: (f inside.chars ++ '}' :: rest) := by simp [Tree.spelled]
    rw [htext]
    exact (readValue_object (.empty (skipBlank_mark hf inside (by decide)))).of_and_true
  | .object members =>
    have htext : (Tree.object members).spelled f ++ rest =
        '{' :: (members.spelled f ++ '}' :: rest) := by simp [Tree.spelled]
    have hmembers := members.readMembers_spelled hf (depth - 1) rest
    obtain ⟨s, hskip⟩ := members.skipBlank_spelled hf ('}' :: rest)
    rw [htext]
    exact readValue_object (.entries (hskip ▸ dropWord?_eq_none (by decide) [] s) hmembers)

theorem Items.readItems_spelled (hf : KeepsBlank f) (items : Items) (depth : Nat)
    (rest : List Char) :
    Gives (readItems depth (skipBlank (items.spelled f ++ ']' :: rest))) (items.Fits depth)
      items.values rest := by
  match items with
  | .last before item after =>
    have hskip : skipBlank ((Items.last before item after).spelled f ++ ']' :: rest) =
        item.spelled f ++ (f after.chars ++ ']' :: rest) := by
      rw [Items.spelled, List.append_assoc, List.append_assoc]
      exact item.skipBlank_spelled (hf before)
    have hitem := item.readValue_spelled hf depth (f after.chars ++ ']' :: rest)
      (stops_mark hf after (by decide))
    rw [hskip]
    exact (readItems_value hitem (.close (skipBlank_mark hf after (by decide)))).of_and_true
  | .cons before item after items =>
    have hskip : skipBlank ((Items.cons before item after items).spelled f ++ ']' :: rest) =
        item.spelled f ++ (f after.chars ++ ',' :: (items.spelled f ++ ']' :: rest)) := by
      simp only [Items.spelled, List.append_assoc, List.cons_append]
      exact item.skipBlank_spelled (hf before)
    have hitem := item.readValue_spelled hf depth
      (f after.chars ++ ',' :: (items.spelled f ++ ']' :: rest)) (stops_mark hf after (by decide))
    have hitems := items.readItems_spelled hf depth rest
    rw [hskip]
    exact readItems_value hitem (.comma (skipBlank_mark hf after (by decide)) hitems)

theorem Members.readMembers_spelled (hf : KeepsBlank f) (members : Members) (depth : Nat)
    (rest : List Char) :
    Gives (readMembers depth (skipBlank (members.spelled f ++ '}' :: rest))) (members.Fits depth)
      (members.entries.map fun (name, value) => (name.value, value)) rest := by
  match members with
  | .last before name colon value after =>
    have hskip : skipBlank ((Members.last before name colon value after).spelled f ++ '}' :: rest) =
        '"' :: (name.text ++ '"' :: (f colon.1.chars ++ ':' :: (f colon.2.chars ++
          (value.spelled f ++ (f after.chars ++ '}' :: rest))))) := by
      simp only [Members.spelled, List.append_assoc, List.cons_append]
      exact skipBlank_mark hf before (by decide)
    have hvalue := value.readValue_spelled hf depth (f after.chars ++ '}' :: rest)
      (stops_mark hf after (by decide))
    -- The reader skips the white space after the colon before it reads the value.
    rw [← value.skipBlank_spelled (hf colon.2)] at hvalue
    rw [hskip]
    exact (readMembers_value (skipBlank_mark hf colon.1 (by decide)) hvalue
      (.close (skipBlank_mark hf after (by decide)))).of_and_true
  | .cons before name colon value after members =>
    have hskip : skipBlank ((Members.cons before name colon value after members).spelled f ++
        '}' :: rest) =
        '"' :: (name.text ++ '"' :: (f colon.1.chars ++ ':' :: (f colon.2.chars ++
          (value.spelled f ++ (f after.chars ++ ',' :: (members.spelled f ++ '}' :: rest)))))) := by
      simp only [Members.spelled, List.append_assoc, List.cons_append]
      exact skipBlank_mark hf before (by decide)
    have hvalue := value.readValue_spelled hf depth
      (f after.chars ++ ',' :: (members.spelled f ++ '}' :: rest)) (stops_mark hf after (by decide))
    have hmembers := members.readMembers_spelled hf depth rest
    rw [← value.skipBlank_spelled (hf colon.2)] at hvalue
    rw [hskip]
    exact readMembers_value (skipBlank_mark hf colon.1 (by decide)) hvalue
      (.comma (skipBlank_mark hf after (by decide)) hmembers)

end

section Whole

variable (hf : KeepsBlank f) (before after : Space) (root : Tree) (depth : Nat)
include hf

theorem readValue_skipBlank_spelled :
    Gives (readValue depth (skipBlank (f before.chars ++ root.spelled f ++ f after.chars)))
      (root.Fits depth) root.value (f after.chars) := by
  have hstops : Stops continuesNumeral (f after.chars) := by
    rw [← List.append_nil (f after.chars)]
    exact stops_blanks continuesNumeral_of_isBlank (hf after) (stops_nil _)
  rw [List.append_assoc, root.skipBlank_spelled (hf before)]
  exact root.readValue_spelled hf depth _ hstops

theorem head?_spelled_ne :
    (f before.chars ++ root.spelled f ++ f after.chars).head? ≠ some '\uFEFF' := by
  obtain ⟨c, s, hs, hstart⟩ := root.spelled_eq_cons f
  have hblank : ∀ c, isBlank c = true → decide (c = '\uFEFF') = false := by
    intro c hc
    obtain rfl | rfl | rfl | rfl := isBlank_iff.mp hc
    all_goals decide
  have hc : decide (c = '\uFEFF') = false := by
    rw [decide_eq_false_iff_not]
    rintro rfl
    revert hstart
    decide
  have hstops := stops_blanks hblank (hf before) (stops_cons hc (s ++ f after.chars))
  intro hhead
  rw [hs, List.append_assoc] at hhead
  exact of_decide_eq_false (hstops _ hhead) rfl

/-- A text that is one value is read as it, whatever the white space around. -/
theorem readWhole_spelled (hfits : root.Fits depth) :
    readWhole depth (f before.chars ++ root.spelled f ++ f after.chars) = .ok root.value := by
  obtain ⟨⟨_, hlen⟩, hread, rfl⟩ :=
    (readValue_skipBlank_spelled hf before after root depth).ok hfits
  have hend : skipBlank (f after.chars) = [] := by
    have hskip := dropWhile_run (hf after) (stops_nil isBlank)
    rwa [List.append_nil] at hskip
  rw [readWhole, if_neg (head?_spelled_ne hf before after root), hread]
  simp only [hend]

theorem readWhole_limit (hnot : ¬root.Fits depth) :
    ∃ e : Refusal, readWhole depth (f before.chars ++ root.spelled f ++ f after.chars) = .error e ∧
      e.IsLimit := by
  obtain ⟨e, he, hlimit⟩ := (readValue_skipBlank_spelled hf before after root depth).limit hnot
  refine ⟨e, ?_, hlimit⟩
  rw [readWhole, if_neg (head?_spelled_ne hf before after root), he]

end Whole

end Trees

end VoxelGrid.Json
