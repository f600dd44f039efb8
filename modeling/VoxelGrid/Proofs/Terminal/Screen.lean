import Mathlib.Data.List.DropRight
import Mathlib.Data.List.SplitBy
import VoxelGrid.Terminal.Screen

/-! What a screen shows of a text. Lines are broken at gaps and inside long words, but nothing else is
lost: the visible characters of a text are shown in their order. A short line of plain characters is
shown as it is. -/

namespace VoxelGrid

namespace Columns

variable (before : List Cluster) (last : Option Char) (text : List Char)

theorem text_attach (columns : Nat) : (attach before text columns).reverse.flatMap Cluster.text =
    before.reverse.flatMap Cluster.text ++ text := by
  cases before with
  | nil => simp [attach]
  | cons cluster before => simp [attach]

theorem text_clustersFrom : (clustersFrom before last text).reverse.flatMap Cluster.text =
    before.reverse.flatMap Cluster.text ++ text := by
  fun_induction clustersFrom before last text with
  | case1 => simp
  | case2 before last c rest ih => simp [ih, text_attach]
  | case3 before last rest _ _ ih => simp [ih, text_attach]
  | case4 before last rest _ _ ih => simp [ih, text_attach]
  | case5 before last c rest _ _ _ ih => simp [ih, text_attach]
  | case6 before last c rest _ _ _ ih => simp [ih]

theorem text_clusters : (clusters text).flatMap Cluster.text = text := by
  rw [clusters, text_clustersFrom]
  rfl

/-- The characters of printable ASCII, which take a column each. -/
def IsPlain (c : Char) : Prop := 0x20 ≤ c.toNat ∧ c.toNat < 0x7F

instance : DecidablePred IsPlain := fun _ => inferInstanceAs (Decidable (_ ∧ _))

variable {text}

theorem clustersFrom_of_plain (h : ∀ c ∈ text, IsPlain c) :
    clustersFrom before last text = (text.map fun c => ⟨[c], 1⟩).reverse ++ before := by
  induction text generalizing before last with
  | nil => rfl
  | cons c text ih =>
    have hc : IsPlain c := h c (List.mem_cons_self ..)
    have hjoiner : c ≠ '\u200D' := by
      rintro rfl
      exact absurd hc.2 (by decide)
    have hpicture : c ≠ pictureMark := by
      rintro rfl
      exact absurd hc.2 (by decide)
    have hone : ofChar c = 1 := if_pos hc
    rw [clustersFrom, if_neg hpicture, hone, if_neg (by decide),
      ih _ _ fun d hd => h d (List.mem_cons_of_mem _ hd)]
    · simp
    · intro d rest hd
      exact absurd hd hjoiner

theorem ofText_of_plain (h : ∀ c ∈ text, IsPlain c) : ofText text = text.length := by
  rw [ofText, clusters, clustersFrom_of_plain [] none h, List.append_nil, List.reverse_reverse]
  clear h
  induction text with
  | nil => rfl
  | cons c text ih => rw [List.map_cons, List.foldr_cons, ih, List.length_cons, Nat.add_comm]

end Columns

namespace Terminal

/-- Whether a screen shows the character, as more than space between others. -/
def isVisible (c : Char) : Bool := !isGap c && !dropped.contains c

def visible (text : List Char) : List Char := text.filter isVisible

theorem visible_append (s t : List Char) : visible (s ++ t) = visible s ++ visible t :=
  List.filter_append ..

theorem visible_of_gaps {text : List Char} (h : ∀ c ∈ text, isGap c = true) : visible text = [] := by
  rw [visible, List.filter_eq_nil_iff]
  intro c hc
  simp [isVisible, h c hc]

theorem visible_flatten (texts : List (List Char)) : visible texts.flatten = texts.flatMap visible := by
  induction texts with
  | nil => rfl
  | cons text texts ih => rw [List.flatten_cons, visible_append, ih, List.flatMap_cons]

theorem visible_intercalate {mark : Char} (h : isVisible mark = false) (texts : List (List Char)) :
    visible ([mark].intercalate texts) = texts.flatMap visible := by
  have hmark : visible [mark] = [] := by simp [visible, h]
  induction texts with
  | nil => rfl
  | cons text texts ih =>
    cases texts with
    | nil => simp
    | cons next texts =>
      rw [List.intercalate_cons_cons, visible_append, visible_append, hmark, List.append_nil, ih]
      rfl

theorem visible_splitOn {mark : Char} (h : isVisible mark = false) (text : List Char) :
    (text.splitOn mark).flatMap visible = visible text := by
  rw [← visible_intercalate h, List.intercalate_splitOn]

/-- Nothing but gaps is lost at the end of a line. -/
theorem visible_rdropWhile {p : Char → Bool} (h : ∀ c, p c = true → isGap c = true)
    (line : List Char) : visible (line.rdropWhile p) = visible line := by
  have hsplit := List.rdropWhile_append_rtakeWhile (p := p) (l := line)
  have hgaps : visible (line.rtakeWhile p) = [] :=
    visible_of_gaps fun c hc => h c (List.mem_rtakeWhile_imp hc)
  conv_rhs => rw [← hsplit, visible_append, hgaps, List.append_nil]

theorem visible_trimEnd (line : List Char) : visible (trimEnd line) = visible line := by
  refine visible_rdropWhile (fun c hc => ?_) line
  obtain rfl : c = ' ' := by simpa using hc
  rfl

theorem visible_cropGap (width : Nat) (line : List Char) :
    visible (cropGap width line) = visible line := by
  have hsplit := List.rdropWhile_append_rtakeWhile (p := isGap) (l := line)
  rw [cropGap]
  generalize hkept : line.length - min (line.length - (withoutGap line).length)
    (line.length - width) = kept
  -- what is cut off lies in the gap at the end
  have hlong : (line.rdropWhile isGap).length ≤ kept := by
    have hle : (line.rdropWhile isGap).length ≤ line.length :=
      (List.rdropWhile_prefix isGap line).length_le
    have hsame : (withoutGap line).length = (line.rdropWhile isGap).length := rfl
    omega
  have hcut : visible (line.drop kept) = [] := by
    apply visible_of_gaps
    intro c hc
    rw [← hsplit, List.drop_append, List.drop_eq_nil_of_le hlong, List.nil_append] at hc
    exact List.mem_rtakeWhile_imp (List.mem_of_mem_drop hc)
  conv_rhs => rw [← List.take_append_drop kept line, visible_append, hcut, List.append_nil]

theorem flatten_piecesFrom (width : Nat) (piece : List Char) (columns : Nat)
    (clusters : List Columns.Cluster) : (piecesFrom width piece columns clusters).flatten =
      piece ++ clusters.flatMap Columns.Cluster.text := by
  induction clusters generalizing piece columns with
  | nil => simp [piecesFrom]
  | cons cluster clusters ih =>
    rw [piecesFrom]
    split <;> simp [ih]

theorem flatten_pieces (width : Nat) (text : List Char) : (pieces width text).flatten = text := by
  rw [pieces, flatten_piecesFrom, Columns.text_clusters, List.nil_append]

theorem flatten_dropLast_append_getLastD (texts : List (List Char)) :
    texts.dropLast.flatten ++ texts.getLastD [] = texts.flatten := by
  rcases List.eq_nil_or_concat texts with rfl | ⟨texts, last, rfl⟩
  · rfl
  · simp

theorem flatten_wrapFrom (width : Nat) (line : List Char) (words : List (List Char)) :
    (wrapFrom width line words).flatten = line ++ words.flatten := by
  induction words generalizing line with
  | nil => simp [wrapFrom]
  | cons word words ih =>
    have hbefore : (if line = [] then [] else [line]).flatten = line := by
      split
      · next h => rw [h]; rfl
      · simp
    simp only [wrapFrom]
    split
    · rw [ih, List.append_assoc, List.flatten_cons]
    split
    · rw [List.flatten_append, ih, hbefore, List.flatten_cons]
    · rw [List.flatten_append, List.flatten_append, ih, hbefore, List.flatten_cons, List.append_assoc,
        ← List.append_assoc _ _ words.flatten, flatten_dropLast_append_getLastD, flatten_pieces]

theorem flatten_words (line : List Char) : (words line).flatten = line := by
  have hsplit := List.flatten_splitBy (fun c d => !isGap c || isGap d) line
  rw [words]
  split
  · next first second rest heq =>
    rw [heq] at hsplit
    split
    · simpa using hsplit
    · exact hsplit
  · exact hsplit

theorem visible_wrap (width : Nat) (line : List Char) :
    (wrap width line).flatMap visible = visible line := by
  rw [wrap]
  split
  · simp
  · simp only [List.flatMap_map, visible_cropGap]
    rw [← visible_flatten, flatten_wrapFrom, flatten_words, List.nil_append]

theorem visible_joinAtTabs (texts : List (List Char)) :
    visible (joinAtTabs texts) = texts.flatMap visible := by
  fun_induction joinAtTabs texts with
  | case1 => rfl
  | case2 => simp
  | case3 text texts _ _ ih =>
    have hspaces (n : Nat) : visible (List.replicate n ' ') = [] :=
      visible_of_gaps fun c hc => by rw [List.eq_of_mem_replicate hc]; rfl
    rw [visible_append, visible_append, hspaces, List.append_nil, ih, List.flatMap_cons]

theorem visible_expandTabs (line : List Char) : visible (expandTabs line) = visible line := by
  rw [expandTabs, visible_joinAtTabs, visible_splitOn rfl]

/-- A screen shows every visible character of a text, and in the order of the text. -/
theorem visible_shown (width : Nat) (text : String) :
    (shown width text).flatMap (visible ·.toList) = visible text.toList := by
  have hdropped : visible (text.toList.filter (!dropped.contains ·)) = visible text.toList := by
    rw [visible, visible, List.filter_filter]
    congr 1
    funext c
    simp [isVisible]
  have hlineEnd : isVisible '\n' = false := rfl
  rw [← hdropped, ← visible_splitOn hlineEnd, shown]
  simp only [List.flatMap_map, String.toList_ofList, visible_trimEnd, List.flatMap_assoc, visible_wrap,
    visible_expandTabs]

theorem shown_of_plain {width : Nat} {text : String}
    (hplain : ∀ c ∈ text.toList, Columns.IsPlain c) (hend : text.toList.getLast? ≠ some ' ')
    (hlength : text.length ≤ width) : shown width text = [text] := by
  have hkept : text.toList.filter (!dropped.contains ·) = text.toList := by
    rw [List.filter_eq_self]
    intro c hc
    have hlow : 0x20 ≤ c.toNat := (hplain c hc).1
    have hnot : c ∉ dropped := by
      intro hmem
      simp only [dropped, List.mem_cons, List.not_mem_nil, or_false] at hmem
      rcases hmem with rfl | rfl | rfl | rfl | rfl <;> exact absurd hlow (by decide)
    simpa using hnot
  have hmark {mark : Char} (h : mark.toNat < 0x20) : mark ∉ text.toList :=
    fun hmem => absurd (hplain mark hmem).1 (Nat.not_le.mpr h)
  have hexpand : expandTabs text.toList = text.toList := by
    rw [expandTabs, List.splitOn_eq_singleton (hmark (by decide)), joinAtTabs]
  have hwrap : wrap width text.toList = [text.toList] := by
    rw [wrap, Columns.ofText_of_plain hplain, String.length_toList, if_pos hlength]
  have htrim : trimEnd text.toList = text.toList := by
    refine List.rdropWhile_eq_self_iff.mpr fun hne hspace => hend ?_
    rw [List.getLast?_eq_some_getLast hne]
    simpa using hspace
  rw [shown, hkept, List.splitOn_eq_singleton (hmark (by decide)), List.flatMap_singleton, hexpand,
    hwrap, List.map_singleton, htrim, String.ofList_toList]

end Terminal

end VoxelGrid
