import VoxelGrid.Limits
import VoxelGrid.Text.Blank

/-!
Integers as they may be typed: with blanks around them, a sign, single underscores between digits,
and a fraction of zeros only. Zeros that lead, with any underscores among them, count for nothing,
and a minus sign may also follow them. The digits, those zeros among them, must not be too many.
-/

namespace VoxelGrid.Terminal

/-- Decimal digits, each further one after at most one underscore. -/
def digits? (value : Nat) : List Char → Option Nat
  | [] => some value
  | c :: rest =>
    if c.isDigit then digits? (10 * value + (c.toNat - '0'.toNat)) rest
    else match c, rest with
      | '_', d :: rest =>
        if d.isDigit then digits? (10 * value + (d.toNat - '0'.toNat)) rest else none
      | _, _ => none

def natural? : List Char → Option Nat
  | [] => none
  | c :: rest => if c.isDigit then digits? (c.toNat - '0'.toNat) rest else none

/-- A numeral without its fraction, which is a point and zeros, one at least. -/
def whole? (text : List Char) : Option (List Char) :=
  match text.dropWhile (· ≠ '.') with
  | [] => some text
  | _ :: fraction =>
    if fraction ≠ [] ∧ fraction.all (· = '0') then some (text.takeWhile (· ≠ '.')) else none

def isLeading (c : Char) : Bool := c = '0' || c = '_'

/-- What follows the zeros that lead a numeral. They begin with a zero; where no digit follows them
they end in one too, and it stays. -/
def significant? (text : List Char) : Option (List Char) :=
  let zeros := text.takeWhile isLeading
  if zeros.head? = some '_' then none
  else match text.dropWhile isLeading with
    | [] => if zeros.getLast? = some '0' then some ['0'] else none
    | c :: rest =>
      if c = '.' ∧ zeros.getLast? ≠ some '0' then none
      else if c = '.' then some ('0' :: c :: rest)
      else some (c :: rest)

/-- What may follow a minus sign after leading zeros: one underscore at most, and a numeral that no
zero leads. -/
def late? (text : List Char) : Option Nat :=
  let text := if text.head? = some '_' then text.drop 1 else text
  if text.head? = some '0' ∧ text ≠ ['0'] then none else natural? text

def unsigned? (text : List Char) : Option Nat := significant? text >>= whole? >>= natural?

/-- A numeral with the sign, if any, behind its leading zeros. -/
def signed? (text : List Char) : Option Int :=
  match significant? text >>= whole? with
  | some ('-' :: late) =>
    if text.head? = some '-' then none else (late? late).map fun n => -(n : Int)
  | some numeral => (natural? numeral).map Int.ofNat
  | none => none

/-- The integer that a text spells with any number of digits. -/
def spelled? (text : String) : Option Int :=
  match Blank.trim text.toList with
  | '-' :: rest => (unsigned? rest).map fun n => -(n : Int)
  | '+' :: rest => signed? rest
  | unmarked => signed? unmarked

def integer? (text : String) : Option Int :=
  if maxDigits < text.toList.countP Char.isDigit then none else spelled? text

end VoxelGrid.Terminal
