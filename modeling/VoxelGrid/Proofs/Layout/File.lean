import VoxelGrid.Layout.File
import VoxelGrid.Proofs.Json.LineEnds
import VoxelGrid.Proofs.Layout.Draft
import VoxelGrid.Proofs.Text.Utf8

/-! What a layout file is read as, whatever room there is for reading nested values. -/

namespace VoxelGrid.Layout

open Storage (Store)

/-- The answer to a file that holds a value: a layout if the last value of each exponent is valid,
otherwise the complaint about the first axis where it is not. -/
def AnswersByLast (file : String) (root : Json.Tree) (answer : Except Error Layout) : Prop :=
  match root.entries? with
  | none => answer = .error (.notAnObject file)
  | some entries =>
    (∀ l : Layout, answer = .ok l ↔
      ∀ axis, Draft.IsPower (Draft.valueOf entries axis) (l.powers.get axis)) ∧
    ∀ e, answer = .error e ↔ ∃ axis, Draft.Complaint axis (Draft.valueOf entries axis) e ∧
      ∀ earlier, earlier.Before axis → ∃ power, Draft.IsPower (Draft.valueOf entries earlier) power

variable {nesting : Nat} {file : String} {s : Store} {d : Json.Document}

theorem run_load {octets : List UInt8} (h : s.read file = .ok octets) :
    (load nesting file : StateM Store (Except Error Layout)).run s =
      (ofOctets nesting file octets, s) := by
  have hread : (Storage.Access.read file : StateM Store _).run s = (s.read file, s) := rfl
  simp only [load, StateT.run_bind, hread, h]
  rfl

theorem ofOctets_encode (text : List Char) :
    ofOctets nesting file (Utf8.encode text) = ofText nesting file text := by
  rw [ofOctets, Utf8.decode_encode]

theorem ofText_answersByLast (h : d.root.Fits nesting) :
    AnswersByLast file d.root (ofText nesting file d.text) := by
  rw [ofText, d.read_text h, AnswersByLast]
  cases hentries : d.root.entries? with
  | none =>
    cases hvalue : d.root.value with
    | object members => exact absurd hvalue (Json.Tree.value_ne_object hentries members)
    | _ => rfl
  | some entries =>
    obtain ⟨members, hvalue, hlookup⟩ := Json.Tree.value_of_entries hentries
    have hget := Draft.get_ofMembers hlookup
    have hwritable : (Draft.ofMembers members).IsWritable := by
      intro axis
      rw [hget]
      exact Draft.isWritable_valueOf (Json.Tree.isWritable_of_entries? h hentries) axis
    rw [hvalue]
    simp only [Draft.validate_eq_ok_iff, Draft.validate_eq_error_iff hwritable, hget]
    exact ⟨fun _ => trivial, fun _ => trivial⟩

theorem ofText_limit (h : ¬d.root.Fits nesting) :
    ∃ fault : Json.Fault,
      ofText nesting file d.text = .error (.malformedJson fault) ∧ fault.IsLimit := by
  obtain ⟨fault, hfault, hlimit⟩ := d.read_limit h
  refine ⟨fault, ?_, hlimit⟩
  rw [ofText, hfault]

/-- A document is answered by the last values of its exponents if its integers are not too long and it
is not nested too deep, and refused for one of these otherwise. -/
theorem load_document (nesting : Nat) (h : s.read file = .ok (Utf8.encode d.text)) :
    ∃ answer, (load nesting file : StateM Store (Except Error Layout)).run s = (answer, s) ∧
      (d.root.Fits nesting → AnswersByLast file d.root answer) ∧
      (¬d.root.Fits nesting →
        ∃ fault : Json.Fault, answer = .error (.malformedJson fault) ∧ fault.IsLimit) := by
  refine ⟨ofText nesting file d.text, ?_, ofText_answersByLast, ofText_limit⟩
  rw [run_load h, ofOctets_encode]

/-- A member that is bound twice, the second time in an escaped spelling, with another object's
member of an exponent's name between. -/
def rebound : Json.Document :=
  let name := Json.Literal.plain "power_x"
  let inner := Json.Literal.plain "power_y"
  let zero : Json.HexDigit := ⟨⟨0, by decide⟩, false⟩
  let seven : Json.HexDigit := ⟨⟨7, by decide⟩, false⟩
  let escaped := .unit zero zero seven zero :: Json.Literal.plain "ower_x"
  let lineEnd := Json.Space.of ['\r', '\n']
  let number n := Json.Tree.number (.ofInt n)
  ⟨.empty, .object <|
    .cons .empty name (.empty, .empty) (number 3) .empty <|
    .cons lineEnd (.plain "a") (.empty, .empty)
      (.object (.last .empty inner (.empty, .empty) (number 1) .empty)) .empty <|
    .last lineEnd escaped (.empty, .empty) (number 4) lineEnd, .empty⟩

/-- A store of one layout file. -/
def storeOf (octets : List UInt8) : Store := ⟨[(["layout.json"], octets)], []⟩

/-- Room for an object in an object is enough. -/
theorem load_document_rebound :
    (storeOf (Utf8.encode rebound.text)).read "layout.json" = .ok (Utf8.encode rebound.text) ∧
      ((load 2 "layout.json" : StateM Store (Except Error Layout)).run
        (storeOf (Utf8.encode rebound.text))).1 = .ok ⟨4, 6, 5⟩ := by
  have hread : (storeOf (Utf8.encode rebound.text)).read "layout.json" =
      .ok (Utf8.encode rebound.text) := rfl
  obtain ⟨answer, hrun, hfits, -⟩ := load_document 2 hread
  have hsmall (n : Fin 5) : (Json.Number.ofInt n).Fits := by
    apply Json.Number.fits_ofInt
    exact lt_pow_maxDigits 1 (by decide) (by omega)
  have hroot : rebound.root.Fits 2 :=
    ⟨by decide, hsmall 3, ⟨by decide, hsmall 1⟩, hsmall 4⟩
  have hpowers : ∀ axis, Draft.IsPower (Draft.valueOf (rebound.root.entries?.getD []) axis)
      ((Layout.mk ⟨4, 6, 5⟩).powers.get axis) := by
    rintro (_ | _ | _)
    all_goals exact ⟨rfl, by decide, by decide⟩
  refine ⟨hread, ?_⟩
  rw [hrun]
  exact ((hfits hroot).1 _).mpr hpowers

/-- Whatever store holds the document, the last values of its exponents alone decide. -/
def LoadsByLast (nesting : Nat) (d : Json.Document) : Prop :=
  ∀ (file : String) (s : Store), s.read file = .ok (Utf8.encode d.text) →
    AnswersByLast file d.root ((load nesting file : StateM Store (Except Error Layout)).run s).1

/-- An object with one member, whose name is no exponent's. -/
def withMember (value : Json.Tree) : Json.Document :=
  ⟨.empty, .object (.last .empty (.plain "a") (.empty, .empty) value .empty), .empty⟩

theorem not_loadsByLast_withMember {value : Json.Tree} (h : ¬value.Fits (nesting - 1)) :
    ¬LoadsByLast nesting (withMember value) := by
  have hroot : ¬(withMember value).root.Fits nesting := fun hfits => h hfits.2
  intro hloads
  have hread : (storeOf (Utf8.encode (withMember value).text)).read "layout.json" =
      .ok (Utf8.encode (withMember value).text) := rfl
  have hlast := hloads _ _ hread
  obtain ⟨fault, hfault, -⟩ : ∃ fault : Json.Fault,
      ofText nesting "layout.json" (withMember value).text = .error (.malformedJson fault) ∧
        fault.IsLimit := ofText_limit hroot
  rw [run_load hread, ofOctets_encode, hfault] at hlast
  have hstandard : ∀ axis, Draft.IsPower
      (Draft.valueOf ((withMember value).root.entries?.getD []) axis)
      (Layout.standard.powers.get axis) := by
    rintro (_ | _ | _)
    all_goals exact ⟨rfl, by decide, by decide⟩
  cases (hlast.1 Layout.standard).mpr hstandard

/-- Arrays around an empty one. -/
def nestedArray : Nat → Json.Tree
  | 0 => .emptyArray .empty
  | n + 1 => .array (.last .empty (nestedArray n) .empty)

theorem fits_nestedArray {n depth : Nat} (h : (nestedArray n).Fits depth) : n < depth := by
  induction n generalizing depth with
  | zero => exact h
  | succ n ih => exact Nat.add_lt_of_lt_sub (ih h.2)

/-- A number of more digits than are read, and arrays nested deeper than there is room for. -/
theorem not_loadsByLast_long_deep :
    (¬ ∃ nesting, LoadsByLast nesting (withMember (.number (.ofInt (10 ^ maxDigits))))) ∧
      ¬ ∃ nesting, LoadsByLast nesting (withMember (nestedArray nesting)) := by
  constructor
  · have hlong (depth : Nat) : ¬(Json.Tree.number (.ofInt (10 ^ maxDigits))).Fits depth := by
      apply Json.Number.not_fits_ofInt
      rw [Int.natAbs_pow, show (10 : Int).natAbs = 10 from rfl]
    rintro ⟨nesting, hloads⟩
    exact not_loadsByLast_withMember (hlong _) hloads
  · rintro ⟨nesting, hloads⟩
    refine not_loadsByLast_withMember (fun hfits => ?_) hloads
    have hlt := fits_nestedArray hfits
    omega

end VoxelGrid.Layout
