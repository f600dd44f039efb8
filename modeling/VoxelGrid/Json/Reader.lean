import VoxelGrid.Json.Numeral
import VoxelGrid.Json.StringLiteral

/-!
Reading JSON. The constants `NaN`, `Infinity` and `-Infinity` are numbers, an object binds its names
in the order of its members, and the first refusal from the left is the one reported. Values may be
nested to a depth only. Each reader returns what is left of the text with a proof that it is shorter,
so that reading ends.
-/

namespace VoxelGrid.Json

def isBlank (c : Char) : Bool := c = ' ' || c = '\t' || c = '\n' || c = '\r'

def skipBlank (s : List Char) : List Char := s.dropWhile isBlank

theorem skipBlank_length_le (s : List Char) : (skipBlank s).length ≤ s.length :=
  Numeral.length_dropWhile_le isBlank s

def dropWord? : List Char → List Char → Option (List Char)
  | [], s => some s
  | _ :: _, [] => none
  | w :: word, c :: s => if w = c then dropWord? word s else none

theorem dropWord?_length {word s rest : List Char} (h : dropWord? word s = some rest) :
    rest.length + word.length = s.length := by
  fun_induction dropWord? word s with
  | case1 s => simp_all
  | case2 => simp at h
  | case3 c word s ih => simp only [List.length_cons, ← Nat.add_assoc, ih h]
  | case4 => simp at h

def constants : List (List Char × Json) :=
  [("null".toList, .null), ("true".toList, .bool true), ("false".toList, .bool false),
    ("NaN".toList, .float .nan), ("Infinity".toList, .float (.infinite false)),
    ("-Infinity".toList, .float (.infinite true))]

/-- The text after a position in `s` that is not its start. -/
abbrev Rest (s : List Char) := { rest : List Char // rest.length < s.length }

def readConstant? (s : List Char) : Option (Json × Rest s) :=
  constants.findSome? fun (word, value) =>
    match h : dropWord? word s with
    | none => none
    | some rest =>
      if hw : 0 < word.length then
        some (value, ⟨rest, by have := dropWord?_length h; omega⟩)
      else none

def readNumber (s : List Char) : Except Refusal (Json × Rest s) :=
  match h : Numeral.read? s with
  | none => .error (.malformed .expectingValue s.length)
  | some (n, rest) =>
    if n.isInteger ∧ maxDigits < n.whole.length then .error (.integerTooLong n.whole.length)
    else .ok (n.value, ⟨rest, Numeral.read?_length h⟩)

mutual

/-- Reads a value of containers that are nested to at most `depth`. -/
def readValue (depth : Nat) (s : List Char) : Except Refusal (Json × Rest s) :=
  match s with
  | [] => .error (.malformed .expectingValue 0)
  | c :: tail =>
    have ht := skipBlank_length_le tail
    if c = '"' then
      match h : StringLiteral.read (c :: tail).length tail with
      | .error e => .error e
      | .ok (t, rest) =>
        .ok (.string t, ⟨rest, Nat.lt_succ_of_lt (StringLiteral.read_length h)⟩)
    else if c = '{' then
      if depth = 0 then .error (.tooDeep .object)
      else match h : dropWord? ['}'] (skipBlank tail) with
      | some rest =>
        .ok (.object [], ⟨rest, by have := dropWord?_length h; simp at this ⊢; omega⟩)
      | none =>
        match readMembers (depth - 1) (skipBlank tail) with
        | .error e => .error e
        | .ok (bindings, ⟨rest, hr⟩) =>
          .ok (.ofBindings bindings, ⟨rest, by simp only [List.length_cons]; omega⟩)
    else if c = '[' then
      if depth = 0 then .error (.tooDeep .array)
      else match h : dropWord? [']'] (skipBlank tail) with
      | some rest =>
        .ok (.array [], ⟨rest, by have := dropWord?_length h; simp at this ⊢; omega⟩)
      | none =>
        match readItems (depth - 1) (skipBlank tail) with
        | .error e => .error e
        | .ok (items, ⟨rest, hr⟩) =>
          .ok (.array items, ⟨rest, by simp only [List.length_cons]; omega⟩)
    else match readConstant? (c :: tail) with
      | some found => .ok found
      | none => readNumber (c :: tail)
termination_by (s.length, 0)
decreasing_by all_goals simp_wf; omega

/-- The items of an array from its first one on, up to the closing bracket. -/
def readItems (depth : Nat) (s : List Char) : Except Refusal (List Json × Rest s) :=
  match readValue depth s with
  | .error e => .error e
  | .ok (value, ⟨rest, hr⟩) =>
    have hs := skipBlank_length_le rest
    match h : skipBlank rest with
    | [] => .error (.malformed .expectingComma 0)
    | c :: after =>
      have ha : (skipBlank rest).length = after.length + 1 := by rw [h, List.length_cons]
      have hb := skipBlank_length_le after
      if c = ']' then .ok ([value], ⟨after, by omega⟩)
      else if c = ',' then
        match readItems depth (skipBlank after) with
        | .error e => .error e
        | .ok (values, ⟨rest, hr⟩) => .ok (value :: values, ⟨rest, by omega⟩)
      else .error (.malformed .expectingComma (after.length + 1))
termination_by (s.length, 1)

/-- The members of an object from its first one on, up to the closing brace. -/
def readMembers (depth : Nat) (s : List Char) : Except Refusal (List (Text × Json) × Rest s) :=
  match s with
  | [] => .error (.malformed .expectingName 0)
  | q :: tail =>
    if q = '"' then
      match h : StringLiteral.read (q :: tail).length tail with
      | .error e => .error e
      | .ok (name, rest) =>
        have hn := StringLiteral.read_length h
        have hs := skipBlank_length_le rest
        match h : skipBlank rest with
        | [] => .error (.malformed .expectingColon 0)
        | c :: after =>
          have ha : (skipBlank rest).length = after.length + 1 := by rw [h, List.length_cons]
          have hb := skipBlank_length_le after
          if c = ':' then
            match readValue depth (skipBlank after) with
            | .error e => .error e
            | .ok (value, ⟨rest, hr⟩) =>
              have hs := skipBlank_length_le rest
              match h : skipBlank rest with
              | [] => .error (.malformed .expectingComma 0)
              | c :: after =>
                have ha : (skipBlank rest).length = after.length + 1 := by
                  rw [h, List.length_cons]
                have hb := skipBlank_length_le after
                if c = '}' then
                  .ok ([(name, value)], ⟨after, by simp only [List.length_cons]; omega⟩)
                else if c = ',' then
                  match readMembers depth (skipBlank after) with
                  | .error e => .error e
                  | .ok (bindings, ⟨rest, hr⟩) =>
                    .ok ((name, value) :: bindings,
                      ⟨rest, by simp only [List.length_cons]; omega⟩)
                else .error (.malformed .expectingComma (after.length + 1))
          else .error (.malformed .expectingColon (after.length + 1))
    else .error (.malformed .expectingName (tail.length + 1))
termination_by (s.length, 1)
decreasing_by all_goals simp_wf; omega

end

def readWhole (depth : Nat) (text : List Char) : Except Refusal Json :=
  if text.head? = some '\uFEFF' then .error (.malformed .byteOrderMark text.length)
  else
    match readValue depth (skipBlank text) with
    | .error e => .error e
    | .ok (value, ⟨rest, _⟩) =>
      match skipBlank rest with
      | [] => .ok value
      | extra => .error (.malformed .extraData extra.length)

/-- Reads a text that is one JSON value with blanks around it. -/
def read (depth : Nat) (text : List Char) : Except Fault Json :=
  (readWhole depth text).mapError (·.locate text)

end VoxelGrid.Json
