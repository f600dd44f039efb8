import VoxelGrid.Json.Value

/-!
Numbers as JSON writes them: a whole part without leading zeros, then a fraction and an exponent,
either of which may be missing. A numeral ends where its grammar ends, so a point without a digit
after it is left to the reader of the rest.
-/

namespace VoxelGrid.Json

structure Numeral where
  negative : Bool
  whole : List Char
  fraction : List Char
  exponent : Option (Bool × List Char)

namespace Numeral

def ofDigits (digits : List Char) : Nat :=
  digits.foldl (fun n d => 10 * n + (d.toNat - '0'.toNat)) 0

def takeWhole? (s : List Char) : Option (List Char × List Char) :=
  match s with
  | [] => none
  | c :: rest =>
    if c = '0' then some (['0'], rest)
    else if c.isDigit then some (s.takeWhile Char.isDigit, s.dropWhile Char.isDigit)
    else none

def takeFraction (s : List Char) : List Char × List Char :=
  match s with
  | '.' :: rest =>
    match rest.takeWhile Char.isDigit with
    | [] => ([], s)
    | digits => (digits, rest.dropWhile Char.isDigit)
  | _ => ([], s)

def takeExponent (s : List Char) : Option (Bool × List Char) × List Char :=
  let digits negative rest :=
    match rest.takeWhile Char.isDigit with
    | [] => (none, s)
    | digits => (some (negative, digits), rest.dropWhile Char.isDigit)
  match s with
  | e :: rest =>
    if e = 'e' ∨ e = 'E' then
      match rest with
      | '-' :: rest => digits true rest
      | '+' :: rest => digits false rest
      | _ => digits false rest
    else (none, s)
  | [] => (none, s)

/-- The longest numeral at the start of the text, and the text after it. -/
def read? (s : List Char) : Option (Numeral × List Char) :=
  let (negative, unsigned) := match s with
    | '-' :: rest => (true, rest)
    | _ => (false, s)
  match takeWhole? unsigned with
  | none => none
  | some (whole, rest) =>
    let (fraction, rest) := takeFraction rest
    let (exponent, rest) := takeExponent rest
    some (⟨negative, whole, fraction, exponent⟩, rest)

def isInteger (n : Numeral) : Bool := n.fraction.isEmpty && n.exponent.isNone

def power (n : Numeral) : Int :=
  match n.exponent with
  | none => 0
  | some (negative, digits) => if negative then -(ofDigits digits : Int) else ofDigits digits

/-- The nearest floating-point number. -/
def toBinary64 (n : Numeral) : Binary64 :=
  .ofDecimal n.negative (ofDigits (n.whole ++ n.fraction)) (n.power - n.fraction.length)

def value (n : Numeral) : Json :=
  if n.isInteger then
    .int (if n.negative then -(ofDigits n.whole : Int) else ofDigits n.whole)
  else .float n.toBinary64

theorem length_dropWhile_le (p : Char → Bool) (s : List Char) :
    (s.dropWhile p).length ≤ s.length := (List.dropWhile_suffix p).length_le

theorem takeWhole?_length {s digits rest : List Char} (h : takeWhole? s = some (digits, rest)) :
    rest.length < s.length := by
  cases s with
  | nil => simp [takeWhole?] at h
  | cons c t =>
    simp only [takeWhole?] at h
    split at h
    · simp only [Option.some.injEq, Prod.mk.injEq] at h; simp [← h.2]
    · split at h
      · next hc =>
        simp only [Option.some.injEq, Prod.mk.injEq] at h
        have := length_dropWhile_le Char.isDigit t
        rw [← h.2, List.dropWhile_cons_of_pos hc, List.length_cons]; omega
      · simp at h

theorem takeFraction_length (s : List Char) : (takeFraction s).2.length ≤ s.length := by
  unfold takeFraction
  split
  · next rest =>
    have := length_dropWhile_le Char.isDigit rest
    split <;> simp only [List.length_cons] <;> omega
  · exact Nat.le_refl _

theorem takeExponent_length (s : List Char) : (takeExponent s).2.length ≤ s.length := by
  have hd := fun t => length_dropWhile_le Char.isDigit t
  unfold takeExponent
  dsimp only
  split
  · next e rest =>
    split
    · split
      · next t => have := hd t; split <;> simp only [List.length_cons] <;> omega
      · next t => have := hd t; split <;> simp only [List.length_cons] <;> omega
      · have := hd rest; split <;> simp only [List.length_cons] <;> omega
    · exact Nat.le_refl _
  · exact Nat.le_refl _

theorem read?_length {s rest : List Char} {n : Numeral} (h : read? s = some (n, rest)) :
    rest.length < s.length := by
  simp only [read?] at h
  split at h
  · simp at h
  · next whole tail hw =>
    have h1 := takeWhole?_length hw
    have h2 := takeFraction_length tail
    have h3 := takeExponent_length (takeFraction tail).2
    simp only [Option.some.injEq, Prod.mk.injEq] at h
    rw [← h.2]
    have : (match s with | '-' :: rest => (true, rest) | _ => (false, s)).2.length ≤ s.length := by
      split <;> simp
    omega

end Numeral

end VoxelGrid.Json
