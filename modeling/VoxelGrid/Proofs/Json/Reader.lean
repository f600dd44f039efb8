import VoxelGrid.Proofs.Json.Numeral
import VoxelGrid.Proofs.Json.StringLiteral

/-! What the reader answers at the text of a value. Each rule takes the answers at the parts of the
value to the answer at the whole. -/

namespace VoxelGrid.Json

def Refusal.IsLimit : Refusal → Prop
  | .malformed .. => False
  | .tooDeep _ | .integerTooLong _ => True

def Fault.IsLimit : Fault → Prop
  | .malformed .. => False
  | .tooDeep _ | .integerTooLong _ => True

theorem Refusal.isLimit_locate {e : Refusal} (h : e.IsLimit) (text : List Char) :
    (e.locate text).IsLimit := by
  cases e with
  | malformed => exact h.elim
  | tooDeep => trivial
  | integerTooLong => trivial

/-- The answer is the value and the rest of the text where the condition holds, and the refusal of a
limit where it does not. -/
structure Gives {α : Type} {s : List Char} (answer : Except Refusal (α × Rest s)) (fits : Prop)
    (a : α) (rest : List Char) : Prop where
  ok : fits → ∃ x, answer = .ok (a, x) ∧ x.val = rest
  limit : ¬fits → ∃ e : Refusal, answer = .error e ∧ e.IsLimit

section Rules

variable {α β : Type} {s s' r rest : List Char} {P Q : Prop} {a : α} {b : β}
variable {answer : Except Refusal (α × Rest s)} {answer' : Except Refusal (β × Rest s')}

theorem Gives.of_ok (h : ∃ x, answer = .ok (a, x) ∧ x.val = rest) : Gives answer True a rest :=
  ⟨fun _ => h, fun hnot => (hnot trivial).elim⟩

/-- A reader that starts with another one refuses what that one refuses. -/
theorem Gives.after (h : Gives answer P a r)
    (herror : ∀ e, answer = .error e → answer' = .error e)
    (hok : ∀ h, answer = .ok (a, ⟨r, h⟩) → Gives answer' Q b rest) :
    Gives answer' (P ∧ Q) b rest := by
  constructor
  · rintro ⟨hP, hQ⟩
    obtain ⟨⟨r, hlen⟩, hanswer, rfl⟩ := h.ok hP
    exact (hok hlen hanswer).ok hQ
  · intro hnot
    by_cases hP : P
    · obtain ⟨⟨r, hlen⟩, hanswer, rfl⟩ := h.ok hP
      exact (hok hlen hanswer).limit fun hQ => hnot ⟨hP, hQ⟩
    · obtain ⟨e, he, hlimit⟩ := h.limit hP
      exact ⟨e, herror e he, hlimit⟩

theorem Gives.of_and_true (h : Gives answer (P ∧ True) a rest) : Gives answer P a rest := by
  rwa [and_true] at h

theorem Gives.map (h : Gives answer P a r)
    (herror : ∀ e, answer = .error e → answer' = .error e)
    (hok : ∀ h, answer = .ok (a, ⟨r, h⟩) → ∃ x, answer' = .ok (b, x) ∧ x.val = rest) :
    Gives answer' P b rest := by
  apply Gives.of_and_true
  exact h.after herror fun hlen ha => .of_ok (hok hlen ha)

/-- A container is refused at depth zero, whatever it holds. -/
theorem Gives.of_depth {f : Nat → Except Refusal (α × Rest s)} {container : Container} {depth : Nat}
    (hzero : f 0 = .error (.tooDeep container))
    (hsucc : ∀ d, depth = d + 1 → Gives (f (d + 1)) P a rest) :
    Gives (f depth) (0 < depth ∧ P) a rest := by
  cases depth with
  | zero => exact ⟨fun h => (Nat.lt_irrefl 0 h.1).elim, fun _ => ⟨_, hzero, trivial⟩⟩
  | succ d =>
    simp only [Nat.succ_pos, true_and]
    exact hsucc d rfl

end Rules

section Scalars

variable {rest : List Char} (depth : Nat)

theorem readValue_null :
    Gives (readValue depth ('n' :: 'u' :: 'l' :: 'l' :: rest)) True .null rest := by
  rw [readValue]
  exact .of_ok ⟨_, rfl, rfl⟩

theorem readValue_true :
    Gives (readValue depth ('t' :: 'r' :: 'u' :: 'e' :: rest)) True (.bool true) rest := by
  rw [readValue]
  exact .of_ok ⟨_, rfl, rfl⟩

theorem readValue_false :
    Gives (readValue depth ('f' :: 'a' :: 'l' :: 's' :: 'e' :: rest)) True (.bool false) rest := by
  rw [readValue]
  exact .of_ok ⟨_, rfl, rfl⟩

theorem readValue_string (l : Literal) :
    Gives (readValue depth ('"' :: (l.text ++ '"' :: rest))) True (.string l.value) rest := by
  rw [readValue]
  simp only [if_true]
  split
  · next e he => cases (StringLiteral.read_text _ l rest).symm.trans he
  · next t r hr =>
    cases (StringLiteral.read_text _ l rest).symm.trans hr
    exact .of_ok ⟨_, rfl, rfl⟩

end Scalars

section Numbers

variable {rest : List Char} (n : Number)

theorem dropWord?_eq_none {w c : Char} (h : w ≠ c) (word s : List Char) :
    dropWord? (w :: word) (c :: s) = none := by
  rw [dropWord?, if_neg h]

/-- No constant starts as a number does. -/
theorem readConstant?_text : readConstant? (n.text ++ rest) = none := by
  have hword : ∀ p ∈ constants, dropWord? p.1 (n.text ++ rest) = none := by
    obtain ⟨d, s, hd, hs | hs⟩ := n.text_eq_cons
    · have hne (w : Char) (hw : w.isDigit = false) : w ≠ d := (ne_of_isDigit hd hw).symm
      rw [hs, List.cons_append]
      simp (disch := decide) [constants, dropWord?, hne]
    · -- Of the constants only the negative infinity starts with a minus sign.
      have hne : 'I' ≠ d := (ne_of_isDigit hd (by decide)).symm
      simp [hs, constants, dropWord?, hne]
  rw [readConstant?, List.findSome?_eq_none_iff]
  intro p hp
  dsimp only
  split
  · rfl
  · next r hr => cases (hword p hp).symm.trans hr

theorem readNumber_text (h : Stops continuesNumeral rest) :
    Gives (readNumber (n.text ++ rest)) n.Fits n.value rest := by
  have hread := n.read?_text h
  have hlong : n.numeral.isInteger = true ∧ maxDigits < n.numeral.whole.length ↔ ¬n.Fits := by
    rw [n.isInteger_numeral, Number.Fits, Classical.not_imp, Nat.not_le]
    rfl
  rw [readNumber]
  split
  · next hnone => cases hnone.symm.trans hread
  next m r hsome =>
  cases hsome.symm.trans hread
  constructor
  · intro hfits
    rw [if_neg fun hnot => hlong.mp hnot hfits, n.value_numeral]
    exact ⟨_, rfl, rfl⟩
  · intro hnot
    rw [if_pos (hlong.mpr hnot)]
    exact ⟨_, rfl, trivial⟩

theorem readValue_number (depth : Nat) (h : Stops continuesNumeral rest) :
    Gives (readValue depth (n.text ++ rest)) n.Fits n.value rest := by
  have hconstant : readConstant? (n.text ++ rest) = none := readConstant?_text n
  have hnumber := readNumber_text n h
  obtain ⟨c, s, hs, hquote, hbrace, hbracket⟩ :
      ∃ c s, n.text = c :: s ∧ c ≠ '"' ∧ c ≠ '{' ∧ c ≠ '[' := by
    obtain ⟨d, s, hd, hs | hs⟩ := n.text_eq_cons
    · have hne {w : Char} (hw : w.isDigit = false) : d ≠ w := ne_of_isDigit hd hw
      exact ⟨d, s, hs, hne (by decide), hne (by decide), hne (by decide)⟩
    · exact ⟨'-', d :: s, hs, by decide, by decide, by decide⟩
  rw [hs, List.cons_append] at hconstant hnumber ⊢
  rw [readValue]
  simp only [if_neg hquote, if_neg hbrace, if_neg hbracket, hconstant]
  exact hnumber

end Numbers

section Entries

variable {α : Type}

/-- What stands after an entry of a container: its end, or a comma and the other entries. -/
inductive Next (read : (s : List Char) → Except Refusal (List α × Rest s)) (close : Char)
    (r : List Char) : Prop → List α → List Char → Prop where
  | close {after : List Char} (h : skipBlank r = close :: after) : Next read close r True [] after
  | comma {after rest : List Char} {P : Prop} {as : List α} (h : skipBlank r = ',' :: after)
    (hread : Gives (read (skipBlank after)) P as rest) : Next read close r P as rest

/-- What stands after the start of a container: its end, or the first entry. -/
inductive Inside (read : (s : List Char) → Except Refusal (List α × Rest s)) (close : Char)
    (r : List Char) : Prop → List α → List Char → Prop where
  | empty {after : List Char} (h : skipBlank r = close :: after) : Inside read close r True [] after
  | entries {rest : List Char} {P : Prop} {as : List α}
    (h : dropWord? [close] (skipBlank r) = none)
    (hread : Gives (read (skipBlank r)) P as rest) : Inside read close r P as rest

variable {read : (s : List Char) → Except Refusal (List α × Rest s)} {close : Char}
variable {r rest after : List Char} {P : Prop} {as : List α}

theorem Next.skipBlank_ne_nil (h : Next read close r P as rest) : skipBlank r ≠ [] := by
  cases h with
  | close hclose => exact hclose ▸ List.cons_ne_nil _ _
  | comma hcomma => exact hcomma ▸ List.cons_ne_nil _ _

theorem dropWord?_close (h : skipBlank r = close :: after) :
    dropWord? [close] (skipBlank r) = some after := by
  rw [h, dropWord?, if_pos rfl, dropWord?]

end Entries

section Arrays

variable {depth : Nat} {s r tail rest : List Char} {P Q : Prop} {v : Json} {vs : List Json}

theorem readItems_error {e : Refusal} (h : readValue depth s = .error e) :
    readItems depth s = .error e := by
  rw [readItems, h]

theorem readItems_value (hvalue : Gives (readValue depth s) P v r)
    (hnext : Next (readItems depth) ']' r Q vs rest) :
    Gives (readItems depth s) (P ∧ Q) (v :: vs) rest := by
  refine hvalue.after (fun e => readItems_error) fun h hv => ?_
  rw [readItems, hv]
  dsimp only
  split
  · next hr => exact absurd hr hnext.skipBlank_ne_nil
  next c t hr =>
  cases hnext with
  | close hclose =>
    cases hr.symm.trans hclose
    rw [if_pos rfl]
    exact .of_ok ⟨_, rfl, rfl⟩
  | comma hcomma hitems =>
    cases hr.symm.trans hcomma
    simp (disch := decide) only [if_neg, if_true]
    refine hitems.map ?_ ?_
    · intro e he
      rw [he]
    · intro h hvs
      rw [hvs]
      exact ⟨_, rfl, rfl⟩

theorem readValue_array_zero : readValue 0 ('[' :: tail) = .error (.tooDeep .array) := by
  rw [readValue]
  simp (disch := decide) only [if_neg, if_true]

theorem readValue_array (hinside : Inside (readItems (depth - 1)) ']' tail P vs rest) :
    Gives (readValue depth ('[' :: tail)) (0 < depth ∧ P) (.array vs) rest := by
  refine Gives.of_depth (f := (readValue · ('[' :: tail))) readValue_array_zero ?_
  rintro d rfl
  rw [readValue]
  simp (disch := decide) only [if_neg, if_true]
  rw [if_neg d.succ_ne_zero]
  cases hinside with
  | empty hclose =>
    split
    · next r hr =>
      cases (dropWord?_close hclose).symm.trans hr
      exact .of_ok ⟨_, rfl, rfl⟩
    · next hr => cases (dropWord?_close hclose).symm.trans hr
  | entries hopen hitems =>
    split
    · next r hr => cases hopen.symm.trans hr
    · refine hitems.map ?_ ?_
      · intro e he
        rw [he]
      · intro h hvs
        rw [hvs]
        exact ⟨_, rfl, rfl⟩

end Arrays

section Objects

variable {depth : Nat} {named tail value r rest : List Char} {P Q : Prop} {v : Json}
variable {vs : List (Text × Json)} {name : Literal}

theorem readMembers_value (hcolon : skipBlank named = ':' :: value)
    (hvalue : Gives (readValue depth (skipBlank value)) P v r)
    (hnext : Next (readMembers depth) '}' r Q vs rest) :
    Gives (readMembers depth ('"' :: (name.text ++ '"' :: named))) (P ∧ Q) ((name.value, v) :: vs)
      rest := by
  rw [readMembers]
  simp only [if_true]
  -- The name is read up to its quote, and the colon after it is found.
  split
  · next e he => cases (StringLiteral.read_text _ name named).symm.trans he
  next t named' hname =>
  cases (StringLiteral.read_text _ name named).symm.trans hname
  split
  · next hr => cases hr.symm.trans hcolon
  next c t hr =>
  cases hr.symm.trans hcolon
  rw [if_pos rfl]
  refine hvalue.after ?_ ?_
  · intro e he
    rw [he]
  intro h hv
  rw [hv]
  dsimp only
  split
  · next hr => exact absurd hr hnext.skipBlank_ne_nil
  next c t hr =>
  cases hnext with
  | close hclose =>
    cases hr.symm.trans hclose
    rw [if_pos rfl]
    exact .of_ok ⟨_, rfl, rfl⟩
  | comma hcomma hmembers =>
    cases hr.symm.trans hcomma
    simp (disch := decide) only [if_neg, if_true]
    refine hmembers.map ?_ ?_
    · intro e he
      rw [he]
    · intro h hvs
      rw [hvs]
      exact ⟨_, rfl, rfl⟩

theorem readValue_object_zero : readValue 0 ('{' :: tail) = .error (.tooDeep .object) := by
  rw [readValue]
  simp (disch := decide) only [if_neg, if_true]

theorem readValue_object (hinside : Inside (readMembers (depth - 1)) '}' tail P vs rest) :
    Gives (readValue depth ('{' :: tail)) (0 < depth ∧ P) (.ofBindings vs) rest := by
  refine Gives.of_depth (f := (readValue · ('{' :: tail))) readValue_object_zero ?_
  rintro d rfl
  rw [readValue]
  simp (disch := decide) only [if_neg, if_true]
  rw [if_neg d.succ_ne_zero]
  cases hinside with
  | empty hclose =>
    split
    · next r hr =>
      cases (dropWord?_close hclose).symm.trans hr
      exact .of_ok ⟨_, rfl, rfl⟩
    · next hr => cases (dropWord?_close hclose).symm.trans hr
  | entries hopen hmembers =>
    split
    · next r hr => cases hopen.symm.trans hr
    · refine hmembers.map ?_ ?_
      · intro e he
        rw [he]
      · intro h hvs
        rw [hvs]
        exact ⟨_, rfl, rfl⟩

end Objects

end VoxelGrid.Json
