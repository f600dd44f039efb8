/-!
Unicode code points, surrogates included. A `Char` cannot be a surrogate, but an escape in a data
file may name half of a surrogate pair on its own, so the strings of such a file are lists of code
points and not of characters.
-/

namespace VoxelGrid

structure CodePoint where
  value : Nat
  value_lt : value < 0x110000
  deriving DecidableEq

abbrev Text := List CodePoint

namespace CodePoint

theorem toNat_lt (c : Char) : c.toNat < 0x110000 := by
  have h := c.valid
  simp only [UInt32.isValidChar, Nat.isValidChar] at h
  simp only [Char.toNat]
  omega

def ofChar (c : Char) : CodePoint := ⟨c.toNat, toNat_lt c⟩

def ofUnit (u : UInt16) : CodePoint := ⟨u.toNat, by have := u.toNat_lt; omega⟩

def IsHighSurrogate (p : CodePoint) : Prop := 0xD800 ≤ p.value ∧ p.value < 0xDC00

def IsLowSurrogate (p : CodePoint) : Prop := 0xDC00 ≤ p.value ∧ p.value < 0xE000

instance (p : CodePoint) : Decidable p.IsHighSurrogate := by
  unfold IsHighSurrogate; infer_instance

instance (p : CodePoint) : Decidable p.IsLowSurrogate := by
  unfold IsLowSurrogate; infer_instance

/-- The code point that a surrogate pair stands for. -/
def join (high low : CodePoint) (hh : high.IsHighSurrogate) (hl : low.IsLowSurrogate) : CodePoint :=
  ⟨0x10000 + (high.value - 0xD800) * 0x400 + (low.value - 0xDC00), by
    obtain ⟨_, _⟩ := hh; obtain ⟨_, _⟩ := hl; omega⟩

end CodePoint

namespace Text

def ofString (s : String) : Text := s.toList.map CodePoint.ofChar

/-- A high surrogate directly before a low one makes one code point; any other stays alone. -/
def joinSurrogates : Text → Text
  | high :: low :: rest =>
    if h : high.IsHighSurrogate ∧ low.IsLowSurrogate then
      high.join low h.1 h.2 :: joinSurrogates rest
    else high :: joinSurrogates (low :: rest)
  | short => short

/-- The text as a `String`, with U+FFFD for each lone surrogate. -/
def toString (t : Text) : String :=
  String.ofList (t.map fun p =>
    if p.IsHighSurrogate ∨ p.IsLowSurrogate then '\uFFFD' else Char.ofNat p.value)

end Text

end VoxelGrid
