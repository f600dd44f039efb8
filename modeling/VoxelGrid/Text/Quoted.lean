import VoxelGrid.Text.Printable

/-!
Quoted text for messages. The quote is `'`, or `"` where that saves escaping; a character without a
visible form is written by the shortest of `\x`, `\u` and `\U` that can hold it.
-/

namespace VoxelGrid.Text

def hexDigits : Nat → Nat → List Char
  | 0, _ => []
  | width + 1, n => hexDigits width (n / 16) ++ [Nat.digitChar (n % 16)]

def escaped (quote : Char) (p : CodePoint) : List Char :=
  if p = .ofChar '\\' then ['\\', '\\']
  else if p = .ofChar quote then ['\\', quote]
  else if p = .ofChar '\t' then ['\\', 't']
  else if p = .ofChar '\n' then ['\\', 'n']
  else if p = .ofChar '\r' then ['\\', 'r']
  else if p.isPrintable then [Char.ofNat p.value]
  else if p.value < 0x100 then '\\' :: 'x' :: hexDigits 2 p.value
  else if p.value < 0x10000 then '\\' :: 'u' :: hexDigits 4 p.value
  else '\\' :: 'U' :: hexDigits 8 p.value

def quote (t : Text) : Char :=
  if t.contains (.ofChar '\'') && !t.contains (.ofChar '"') then '"' else '\''

def quoted (t : Text) : String :=
  String.ofList (t.quote :: t.flatMap (escaped t.quote) ++ [t.quote])

end VoxelGrid.Text
