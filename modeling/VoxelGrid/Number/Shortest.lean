import VoxelGrid.Number.Binary64

/-!
The shortest decimal that reads back as a given floating-point number. The reals that round to it
form an interval, ends included when the significand is even; the coarsest decimal grid with a point
in the interval has at most two there, next to the number on either side, and the nearer one is
taken.
-/

namespace VoxelGrid.Binary64

/-- The number in quarters of its last binary digit, and the interval that rounds to it. Below a
power of two the neighbour is only half as far. -/
structure Interval where
  low : Nat
  value : Nat
  high : Nat
  closed : Bool

def interval (m : Nat) (e : Int) : Interval where
  low := if m = Nat.pow 2 52 ∧ -1074 < e then 4 * m - 1 else 4 * m - 2
  value := 4 * m
  high := 4 * m + 2
  closed := m % 2 = 0

def Interval.contains (i : Interval) (n unit : Nat) : Bool :=
  if i.closed then i.low * unit ≤ n && n ≤ i.high * unit
  else i.low * unit < n && n < i.high * unit

/-- The point of the grid of multiples of `10 ^ place` that lies in the interval of `m * 2 ^ e`. -/
def onGrid? (m : Nat) (e place : Int) : Option Nat :=
  let i := interval m e
  let unit := Nat.pow 2 (e - 2).toNat * Nat.pow 10 (-place).toNat
  let step := Nat.pow 2 (2 - e).toNat * Nat.pow 10 place.toNat
  let d := i.value * unit / step
  let below := i.contains (d * step) unit
  let above := i.contains ((d + 1) * step) unit
  let lower := 2 * i.value * unit < (2 * d + 1) * step ∨
    (2 * i.value * unit = (2 * d + 1) * step ∧ d % 2 = 0)
  if below ∧ (above → lower) then some d
  else if above then some (d + 1)
  else none

/-- Tries one place after the other, from a coarse one to the right. -/
def searchGrids (m : Nat) (e : Int) : Nat → Int → Nat × Int
  | 0, place => (m, place)
  | tries + 1, place =>
    match onGrid? m e place with
    | some d => (d, place)
    | none => searchGrids m e tries (place - 1)

/-- Digits and power of ten of the shortest decimal for `m * 2 ^ e`, with `m` positive. -/
def shortest (m : Nat) (e : Int) : Nat × Int :=
  let top := ((m.log2 + 1 : Nat) + e) * 30103
  searchGrids m e 40 (top / 100000 + 2)

/-- How a finite number is laid out: plain while the first digit stands at one of these powers of
ten, with an exponent of at least this many digits elsewhere. -/
structure Style where
  leastPlain : Int
  mostPlain : Int
  exponentDigits : Nat

def style : Style := ⟨-4, 15, 2⟩

def zeros (n : Nat) : List Char := List.replicate n '0'

def exponentText (s : Style) (n : Int) : List Char :=
  let digits := Nat.toDigits 10 n.natAbs
  'e' :: (if n < 0 then '-' else '+') :: zeros (s.exponentDigits - digits.length) ++ digits

def layOut (s : Style) (digits : List Char) (power : Int) : List Char :=
  let first := digits.length + power - 1
  if first < s.leastPlain ∨ s.mostPlain < first then
    let tail := digits.drop 1
    digits.take 1 ++ (if tail.isEmpty then [] else '.' :: tail) ++ exponentText s first
  else if 0 ≤ power then digits ++ zeros power.toNat ++ ['.', '0']
  else if 0 ≤ first then
    digits.take (first + 1).toNat ++ '.' :: digits.drop (first + 1).toNat
  else ['0', '.'] ++ zeros (-first - 1).toNat ++ digits

def text : Binary64 → String
  | .nan => "nan"
  | .infinite negative => if negative then "-inf" else "inf"
  | .finite negative m e =>
    let (digits, power) := if m = 0 then (0, 0) else shortest m e
    String.ofList ((if negative then ['-'] else []) ++
      layOut style (Nat.toDigits 10 digits) power)

end VoxelGrid.Binary64
