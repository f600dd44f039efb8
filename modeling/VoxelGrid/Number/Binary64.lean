import VoxelGrid.Number.Rounding

/-!
Floating-point numbers of 53 significant binary digits and exponents from -1074. A finite number is
its significand times a power of two, kept apart from its sign so that zero has one too; every value
arises from an exact quotient by one rounding to the nearest.
-/

namespace VoxelGrid

inductive Binary64 where
  | nan
  | infinite (negative : Bool)
  | finite (negative : Bool) (significand : Nat) (exponent : Int)
  deriving DecidableEq

namespace Binary64

def zero (negative : Bool) : Binary64 := .finite negative 0 (-1074)

/-- How many times `2 ^ exponent` goes into `num / den`, to the nearest whole number. -/
def significandAt (num den : Nat) (exponent : Int) : Nat :=
  Rounding.roundDiv (num * Nat.pow 2 (-exponent).toNat) (den * Nat.pow 2 exponent.toNat)

/-- A significand of 54 digits, which rounding up can reach, moves to the next exponent. -/
def pack (negative : Bool) (significand : Nat) (exponent : Int) : Binary64 :=
  let (m, e) :=
    if significand = Nat.pow 2 53 then (Nat.pow 2 52, exponent + 1) else (significand, exponent)
  if 971 < e then .infinite negative else .finite negative m e

/-- The number nearest to `num / den`, for a positive `den`. -/
def ofRatio (negative : Bool) (num den : Nat) : Binary64 :=
  if num = 0 then zero negative
  else
    let guess : Int := num.log2 - den.log2 - 52
    let low := num * Nat.pow 2 (-guess).toNat < den * Nat.pow 2 (guess.toNat + 52)
    let exponent := max (-1074) (if low then guess - 1 else guess)
    pack negative (significandAt num den exponent) exponent

def ofInt (n : Int) : Binary64 := ofRatio (n < 0) n.natAbs 1

def decimalLength (n : Nat) : Nat := (Nat.toDigits 10 n).length

/-- The number nearest to `digits * 10 ^ exponent`. Far outside the range the power of ten is not
worked out. -/
def ofDecimal (negative : Bool) (digits : Nat) (exponent : Int) : Binary64 :=
  let top := decimalLength digits + exponent
  if digits = 0 ∨ top < -330 then zero negative
  else if 310 < top then .infinite negative
  else ofRatio negative (digits * Nat.pow 10 exponent.toNat) (Nat.pow 10 (-exponent).toNat)

/-- The whole part, rounding toward zero. -/
def trunc? : Binary64 → Option Int
  | .finite negative m e =>
    let n : Int := m * Nat.pow 2 e.toNat / Nat.pow 2 (-e).toNat
    some (if negative then -n else n)
  | _ => none

def IsZero : Binary64 → Prop
  | .finite _ m _ => m = 0
  | _ => False

instance : DecidablePred IsZero := fun x => by
  unfold IsZero; split <;> infer_instance

/-- The value with its significand cut to fewer digits, as in a narrower format. -/
def narrow (bits : Nat) : Binary64 → Binary64
  | .finite negative m e =>
    let r := Rounding.roundBits bits m
    ofRatio negative (r * Nat.pow 2 e.toNat) (Nat.pow 2 (-e).toNat)
  | x => x

end Binary64

end VoxelGrid
