/-!
UTF-8 as a strict decoder. A sequence is refused at its first octet that cannot continue it, and the
refusal covers the octets before that one, so it says where the damage starts and how far it reaches.
-/

namespace VoxelGrid.Utf8

inductive Cause where
  | invalidStart
  | invalidContinuation
  | unexpectedEnd
  deriving DecidableEq

/-- Octets `start` to `stop - 1` are no character; `octet` is the first of them. -/
structure Fault where
  cause : Cause
  start : Nat
  stop : Nat
  octet : UInt8
  deriving DecidableEq

def isContinuation (b : UInt8) : Bool := 0x80 ≤ b && b < 0xC0

/-- Which octets may follow a lead octet: overlong forms, surrogates and values past U+10FFFF are
shut out by the second octet alone. -/
def mayFollow (lead b : UInt8) : Bool :=
  isContinuation b &&
    (if lead = 0xE0 then 0xA0 ≤ b
     else if lead = 0xED then b < 0xA0
     else if lead = 0xF0 then 0x90 ≤ b
     else if lead = 0xF4 then b < 0x90
     else true)

/-- The scalar value with the payload bits of `lead` above those of the octets after it. -/
def scalar (lead : Nat) (tail : List UInt8) : Char :=
  Char.ofNat (tail.foldl (fun n b => n * 64 + b.toNat % 64) lead)

def decodeFrom (start : Nat) : List UInt8 → Except Fault (List Char)
  | [] => .ok []
  | a :: rest =>
    let refuse cause length := .error ⟨cause, start, start + length, a⟩
    if a < 0x80 then (scalar a.toNat [] :: ·) <$> decodeFrom (start + 1) rest
    else if a < 0xC2 || 0xF4 < a then refuse .invalidStart 1
    else match rest with
      | [] => refuse .unexpectedEnd 1
      | b :: rest =>
        if !mayFollow a b then refuse .invalidContinuation 1
        else if a < 0xE0 then (scalar (a.toNat % 32) [b] :: ·) <$> decodeFrom (start + 2) rest
        else match rest with
          | [] => refuse .unexpectedEnd 2
          | c :: rest =>
            if !isContinuation c then refuse .invalidContinuation 2
            else if a < 0xF0 then
              (scalar (a.toNat % 16) [b, c] :: ·) <$> decodeFrom (start + 3) rest
            else match rest with
              | [] => refuse .unexpectedEnd 3
              | d :: rest =>
                if !isContinuation d then refuse .invalidContinuation 3
                else (scalar (a.toNat % 8) [b, c, d] :: ·) <$> decodeFrom (start + 4) rest

def decode (octets : List UInt8) : Except Fault (List Char) := decodeFrom 0 octets

def encode (text : List Char) : List UInt8 := text.flatMap String.utf8EncodeChar

def Cause.message : Cause → String
  | .invalidStart => "invalid start byte"
  | .invalidContinuation => "invalid continuation byte"
  | .unexpectedEnd => "unexpected end of data"

def hexDigit (n : Nat) : Char := Nat.digitChar (n % 16)

def Fault.message (f : Fault) : String :=
  let place :=
    if f.stop = f.start + 1 then
      s!"byte 0x{hexDigit (f.octet.toNat / 16)}{hexDigit f.octet.toNat} in position {f.start}"
    else s!"bytes in position {f.start}-{f.stop - 1}"
  s!"'utf-8' codec can't decode {place}: {f.cause.message}"

end VoxelGrid.Utf8
