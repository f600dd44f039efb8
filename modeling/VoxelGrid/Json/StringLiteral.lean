import VoxelGrid.Json.Fault

/-!
The characters of a JSON string, read up to its closing quote. A `\u` escape names one code point of
the basic plane, or one half of a surrogate pair, and is read only where a character follows it.
-/

namespace VoxelGrid.Json.StringLiteral

def hexValue? (c : Char) : Option Nat :=
  if '0' ≤ c ∧ c ≤ '9' then some (c.toNat - '0'.toNat)
  else if 'a' ≤ c ∧ c ≤ 'f' then some (c.toNat - 'a'.toNat + 10)
  else if 'A' ≤ c ∧ c ≤ 'F' then some (c.toNat - 'A'.toNat + 10)
  else none

/-- The code unit that four hexadecimal digits spell. -/
def unit? (a b c d : Char) : Option UInt16 := do
  let digits ← [a, b, c, d].mapM hexValue?
  return .ofNat (digits.foldl (16 * · + ·) 0)

def shortEscape? : Char → Option Char
  | '"' => some '"'
  | '\\' => some '\\'
  | '/' => some '/'
  | 'b' => some '\x08'
  | 'f' => some '\x0c'
  | 'n' => some '\n'
  | 'r' => some '\r'
  | 't' => some '\t'
  | _ => none

/-- Reads on from inside a string; `opening` is the length of the text from its opening quote. -/
def readUnits (opening : Nat) : List Char → Except Refusal (Text × List Char)
  | [] => .error (.malformed .unterminatedString opening)
  | c :: rest =>
    if c = '"' then .ok ([], rest)
    else if c = '\\' then
      match rest with
      | [] => .error (.malformed .unterminatedString opening)
      | e :: rest =>
        if e = 'u' then
          let refused := .error (.malformed .invalidUnicodeEscape (rest.length + 1))
          match rest with
          | a :: b :: c :: d :: rest =>
            match unit? a b c d with
            | none => refused
            | some u =>
              if rest.isEmpty then refused
              else (fun (t, r) => (.ofUnit u :: t, r)) <$> readUnits opening rest
          | _ => refused
        else match shortEscape? e with
          | none => .error (.malformed .invalidEscape (rest.length + 2))
          | some x => (fun (t, r) => (.ofChar x :: t, r)) <$> readUnits opening rest
    else if c.toNat < 0x20 then .error (.malformed .controlCharacter (rest.length + 1))
    else (fun (t, r) => (.ofChar c :: t, r)) <$> readUnits opening rest

def read (opening : Nat) (s : List Char) : Except Refusal (Text × List Char) :=
  (fun (t, r) => (t.joinSurrogates, r)) <$> readUnits opening s

theorem length_of_map {f : Text → Text} {n : Nat} {t : Text} {rest : List Char}
    {x : Except Refusal (Text × List Char)}
    (h : (fun (u, r) => (f u, r)) <$> x = .ok (t, rest))
    (hx : ∀ u r, x = .ok (u, r) → r.length < n) : rest.length < n := by
  cases x with
  | error e => exact nomatch h
  | ok p => exact (Prod.mk.inj (Except.ok.inj h)).2 ▸ hx p.1 p.2 rfl

theorem readUnits_length {opening : Nat} {s rest : List Char} {t : Text}
    (h : readUnits opening s = .ok (t, rest)) : rest.length < s.length := by
  fun_induction readUnits opening s generalizing t rest with
  | case1 | case3 | case4 | case5 | case7 | case8 | case10 => exact nomatch h
  | case2 => exact (Prod.mk.inj (Except.ok.inj h)).2 ▸ Nat.lt_succ_self _
  | case6 | case9 | case11 =>
    refine length_of_map h fun _ _ hr => ?_
    simp only [List.length_cons]
    grind

theorem read_length {opening : Nat} {s rest : List Char} {t : Text}
    (h : read opening s = .ok (t, rest)) : rest.length < s.length := by
  unfold read at h
  exact length_of_map h fun _ _ hx => readUnits_length hx

end VoxelGrid.Json.StringLiteral
