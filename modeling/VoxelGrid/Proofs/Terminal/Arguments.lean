import VoxelGrid.Proofs.Terminal.Integer
import VoxelGrid.Terminal.Arguments

/-! Arguments that are operands. Where unknown options are operands, so are integers of either sign
and any length, and two hyphens alone may stand before any of them. -/

namespace VoxelGrid.Terminal.Grammar

variable {g : Grammar} {argument : String}

/-- The argument is an operand wherever it is met. -/
def IsOperand (g : Grammar) (argument : String) : Prop :=
  ∀ rest, g.read? (argument :: rest) = (g.read? rest).map (·.withOptions [] (some argument))

theorem isOperand_of_head?_ne (hmixed : g.mixed = true)
    (h : argument.toList.head? ≠ some '-') : g.IsOperand argument := by
  intro rest
  have hends : argument ≠ "--" := by
    rintro rfl
    exact h rfl
  rw [read?, if_neg hends, if_neg fun hoption => h hoption.1, if_pos hmixed]

/-- Two hyphens alone end the options, of which there are none. -/
theorem read?_of_operands {arguments : List String}
    (h : ∀ a ∈ arguments.erase "--", g.IsOperand a) :
    g.read? arguments = some ⟨[], arguments.erase "--"⟩ := by
  induction arguments with
  | nil => rfl
  | cons a arguments ih =>
    by_cases hends : a = "--"
    · subst hends
      rw [List.erase_cons_head, read?, if_pos rfl]
    · rw [List.erase_cons_tail (by simpa using hends)] at h ⊢
      rw [h a (List.mem_cons_self ..), ih fun b hb => h b (List.mem_cons_of_mem _ hb)]
      rfl

/-- Letters without a rule stay together. -/
theorem readLetters?_of_unknown (hkeeps : g.keepsUnknown = true) {letters : List Char}
    (h : ∀ c ∈ letters, g.options.find? (·.letter = some c) = none) {unknown : List Char}
    (hne : unknown ++ letters ≠ []) : g.readLetters? unknown letters =
      some ⟨[], some (String.ofList ('-' :: (unknown ++ letters))), none⟩ := by
  induction letters generalizing unknown with
  | nil =>
    rw [List.append_nil] at hne ⊢
    rw [readLetters?, if_neg hne]
  | cons c letters ih =>
    have hsplit : unknown ++ c :: letters = unknown ++ [c] ++ letters := by simp
    rw [readLetters?, h c (List.mem_cons_self ..)]
    simp only [if_pos hkeeps]
    rw [hsplit] at hne ⊢
    exact ih (fun d hd => h d (List.mem_cons_of_mem _ hd)) hne

/-- An option with a long name has a second hyphen. -/
theorem readOption?_of_letters {c : Char} (hc : c ≠ '-') (hequals : c ≠ '=') (letters : List Char) :
    g.readOption? ('-' :: c :: letters) = g.readLetters? [] (c :: letters) := by
  have hlong : (g.options.find? fun rule =>
      "--".toList ++ rule.name.toList = ('-' :: c :: letters).takeWhile (· ≠ '=')) = none := by
    rw [List.find?_eq_none]
    intro rule _ hname
    have hcons : '-' :: '-' :: rule.name.toList =
        '-' :: c :: letters.takeWhile (· ≠ '=') := by simpa [hequals] using hname
    exact hc (List.cons.inj (List.cons.inj hcons).2).1.symm
  have htwo : ('-' :: c :: letters).take 2 ≠ ['-', '-'] := by simpa using hc
  simp only [readOption?, hlong, if_neg htwo, List.drop_succ_cons, List.drop_zero]

/-- The grammar takes negative integers for operands. -/
structure TakesIntegers (g : Grammar) : Prop where
  mixed : g.mixed = true
  keepsUnknown : g.keepsUnknown = true
  noLetter : ∀ c, isNumeral c = true ∨ Blank.isBlank c = true →
    g.options.find? (·.letter = some c) = none

theorem TakesIntegers.isOperand (hg : g.TakesIntegers) {n : Int} (h : spelled? argument = some n) :
    g.IsOperand argument := by
  by_cases hhead : argument.toList.head? = some '-'
  swap
  · exact isOperand_of_head?_ne hg.mixed hhead
  obtain ⟨tail, htail⟩ := List.head?_eq_some_iff.mp hhead
  obtain ⟨hfirst, hall⟩ := numeral_of_spelled? h htail
  obtain ⟨c, letters, rfl⟩ : ∃ c letters, tail = c :: letters := by
    rcases tail with _ | ⟨c, letters⟩
    · cases hfirst
    · exact ⟨c, letters, rfl⟩
  have hminus : c ≠ '-' := by
    rintro rfl
    cases hfirst
  have hequals : c ≠ '=' := by
    rintro rfl
    cases hfirst
  have hends : argument ≠ "--" := by
    rintro rfl
    cases htail
    exact hminus rfl
  have hlength : 1 < argument.length := by simp [← String.length_toList, htail]
  have hoption : g.readOption? argument.toList = some ⟨[], some argument, none⟩ := by
    have hunknown : ∀ d ∈ c :: letters, g.options.find? (·.letter = some d) = none :=
      fun d hd => hg.noLetter d (hall d hd)
    have hletters : g.readLetters? [] (c :: letters) =
        some ⟨[], some (String.ofList ('-' :: c :: letters)), none⟩ :=
      readLetters?_of_unknown hg.keepsUnknown hunknown (List.cons_ne_nil c letters)
    rw [htail, readOption?_of_letters hminus hequals, hletters, ← htail, String.ofList_toList]
  intro rest
  rw [read?, if_neg hends, if_pos ⟨hhead, hlength⟩, hoption]

end VoxelGrid.Terminal.Grammar
