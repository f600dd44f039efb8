import VoxelGrid.Json.Reader

/-! JSON documents as the grammar builds them: a value with white space around every token, each
string and number in any of its spellings. Every text that is one JSON value is the text of a
document, and the document says which value that is. -/

namespace VoxelGrid.Json

structure Space where
  chars : List Char
  blank : ∀ c ∈ chars, c = ' ' ∨ c = '\t' ∨ c = '\n' ∨ c = '\r'

def Space.empty : Space := ⟨[], nofun⟩

/-- White space of the blanks among the characters. -/
def Space.of (chars : List Char) : Space :=
  ⟨chars.filter isBlank, by simp [isBlank, or_assoc]⟩

structure HexDigit where
  value : Fin 16
  capital : Bool

def HexDigit.char (d : HexDigit) : Char :=
  if d.value < 10 then Char.ofNat ('0'.toNat + d.value)
  else Char.ofNat ((if d.capital then 'A' else 'a').toNat + (d.value - 10))

inductive ShortEscape where
  | quote
  | backslash
  | slash
  | backspace
  | formFeed
  | lineFeed
  | carriageReturn
  | tab

namespace ShortEscape

def letter : ShortEscape → Char
  | .quote => '"'
  | .backslash => '\\'
  | .slash => '/'
  | .backspace => 'b'
  | .formFeed => 'f'
  | .lineFeed => 'n'
  | .carriageReturn => 'r'
  | .tab => 't'

def char : ShortEscape → Char
  | .quote => '"'
  | .backslash => '\\'
  | .slash => '/'
  | .backspace => '\x08'
  | .formFeed => '\x0c'
  | .lineFeed => '\n'
  | .carriageReturn => '\r'
  | .tab => '\t'

end ShortEscape

/-- The character may stand for itself in a string. -/
def IsPlain (c : Char) : Prop := c ≠ '"' ∧ c ≠ '\\' ∧ 0x20 ≤ c.toNat

instance (c : Char) : Decidable (IsPlain c) := inferInstanceAs (Decidable (_ ∧ _))

/-- One character of a string as it is written, or half of a surrogate pair. -/
inductive Piece where
  | plain (c : Char) (h : IsPlain c)
  | short (e : ShortEscape)
  | unit (a b c d : HexDigit)

namespace Piece

def text : Piece → List Char
  | .plain c _ => [c]
  | .short e => ['\\', e.letter]
  | .unit a b c d => ['\\', 'u', a.char, b.char, c.char, d.char]

def codePoint : Piece → CodePoint
  | .plain c _ => .ofChar c
  | .short e => .ofChar e.char
  | .unit a b c d => ⟨((a.value * 16 + b.value) * 16 + c.value) * 16 + d.value, by omega⟩

end Piece

/-- A string between its quotes. -/
abbrev Literal := List Piece

namespace Literal

def text (l : Literal) : List Char := l.flatMap Piece.text

def codePoints (l : Literal) : Text := l.map Piece.codePoint

def value (l : Literal) : Text := l.codePoints.joinSurrogates

/-- The name without escapes, where each of its characters may stand for itself. -/
def plain (name : String) : Literal :=
  name.toList.filterMap fun c => if h : IsPlain c then some (.plain c h) else none

/-- The literal spells a name, in plain characters or in escapes. -/
def Spells (l : Literal) (name : String) : Prop := l.codePoints = Text.ofString name

instance (l : Literal) (name : String) : Decidable (l.Spells name) :=
  inferInstanceAs (Decidable (_ = _))

end Literal

inductive ExponentSign where
  | absent
  | plus
  | minus

namespace ExponentSign

def text : ExponentSign → List Char
  | .absent => []
  | .plus => ['+']
  | .minus => ['-']

def isMinus : ExponentSign → Bool
  | .minus => true
  | _ => false

end ExponentSign

structure Exponent where
  capital : Bool
  sign : ExponentSign
  digits : List Char
  digits_ne_nil : digits ≠ []
  isDigit : ∀ c ∈ digits, c.isDigit = true

def Exponent.text (e : Exponent) : List Char :=
  (if e.capital then 'E' else 'e') :: e.sign.text ++ e.digits

structure Number where
  negative : Bool
  whole : Nat
  fraction : List Char
  isDigit : ∀ c ∈ fraction, c.isDigit = true
  exponent : Option Exponent

namespace Number

def fractionText (n : Number) : List Char := if n.fraction = [] then [] else '.' :: n.fraction

def exponentText (n : Number) : List Char := n.exponent.elim [] Exponent.text

/-- The whole part has no leading zeros, and no point stands before an empty fraction. -/
def text (n : Number) : List Char :=
  (if n.negative then ['-'] else []) ++ Nat.toDigits 10 n.whole ++ n.fractionText ++ n.exponentText

def IsInteger (n : Number) : Prop := n.fraction = [] ∧ n.exponent.isNone

instance (n : Number) : Decidable n.IsInteger := inferInstanceAs (Decidable (_ ∧ _))

def numeral (n : Number) : Numeral :=
  ⟨n.negative, Nat.toDigits 10 n.whole, n.fraction,
    n.exponent.map fun e => (e.sign.isMinus, e.digits)⟩

def value (n : Number) : Json :=
  if n.IsInteger then .int (if n.negative then -n.whole else n.whole)
  else .float n.numeral.toBinary64

def ofInt (n : Int) : Number := ⟨n < 0, n.natAbs, [], nofun, none⟩

/-- An integer is not too long to be read. -/
def Fits (n : Number) : Prop := n.IsInteger → (Nat.toDigits 10 n.whole).length ≤ maxDigits

end Number

mutual

inductive Tree where
  | null
  | bool (b : Bool)
  | number (n : Number)
  | string (l : Literal)
  | emptyArray (inside : Space)
  | array (items : Items)
  | emptyObject (inside : Space)
  | object (members : Members)

/-- The items between the brackets of an array. -/
inductive Items where
  | last (before : Space) (item : Tree) (after : Space)
  | cons (before : Space) (item : Tree) (after : Space) (rest : Items)

/-- The members between the braces of an object, each a name and a value on the two sides of a
colon. -/
inductive Members where
  | last (before : Space) (name : Literal) (colon : Space × Space) (value : Tree) (after : Space)
  | cons (before : Space) (name : Literal) (colon : Space × Space) (value : Tree) (after : Space)
      (rest : Members)

end

mutual

/-- The text of a value, where white space is rewritten by `f`. -/
def Tree.spelled (f : List Char → List Char) : Tree → List Char
  | .null => ['n', 'u', 'l', 'l']
  | .bool true => ['t', 'r', 'u', 'e']
  | .bool false => ['f', 'a', 'l', 's', 'e']
  | .number n => n.text
  | .string l => '"' :: l.text ++ ['"']
  | .emptyArray inside => '[' :: f inside.chars ++ [']']
  | .array items => '[' :: items.spelled f ++ [']']
  | .emptyObject inside => '{' :: f inside.chars ++ ['}']
  | .object members => '{' :: members.spelled f ++ ['}']

def Items.spelled (f : List Char → List Char) : Items → List Char
  | .last before item after => f before.chars ++ item.spelled f ++ f after.chars
  | .cons before item after rest =>
    f before.chars ++ item.spelled f ++ f after.chars ++ ',' :: rest.spelled f

def Members.spelled (f : List Char → List Char) : Members → List Char
  | .last before name colon value after =>
    f before.chars ++ '"' :: name.text ++ '"' :: f colon.1.chars ++ ':' :: f colon.2.chars ++
      value.spelled f ++ f after.chars
  | .cons before name colon value after rest =>
    f before.chars ++ '"' :: name.text ++ '"' :: f colon.1.chars ++ ':' :: f colon.2.chars ++
      value.spelled f ++ f after.chars ++ ',' :: rest.spelled f

end

mutual

def Tree.value : Tree → Json
  | .null => .null
  | .bool b => .bool b
  | .number n => n.value
  | .string l => .string l.value
  | .emptyArray _ => .array []
  | .array items => .array items.values
  | .emptyObject _ => .object []
  | .object members => .ofBindings (members.entries.map fun (name, value) => (name.value, value))

def Items.values : Items → List Json
  | .last _ item _ => [item.value]
  | .cons _ item _ rest => item.value :: rest.values

/-- The names and values of an object, in their order. -/
def Members.entries : Members → List (Literal × Json)
  | .last _ name _ value _ => [(name, value.value)]
  | .cons _ name _ value _ rest => (name, value.value) :: rest.entries

end

mutual

/-- Containers are nested to at most a depth, and no integer is too long. -/
def Tree.Fits : Nat → Tree → Prop
  | _, .null | _, .bool _ | _, .string _ => True
  | _, .number n => n.Fits
  | depth, .emptyArray _ | depth, .emptyObject _ => 0 < depth
  | depth, .array items => 0 < depth ∧ items.Fits (depth - 1)
  | depth, .object members => 0 < depth ∧ members.Fits (depth - 1)

def Items.Fits : Nat → Items → Prop
  | depth, .last _ item _ => item.Fits depth
  | depth, .cons _ item _ rest => item.Fits depth ∧ rest.Fits depth

def Members.Fits : Nat → Members → Prop
  | depth, .last _ _ _ value _ => value.Fits depth
  | depth, .cons _ _ _ value _ rest => value.Fits depth ∧ rest.Fits depth

end

/-- The members of an object; no other value has any. -/
def Tree.entries? : Tree → Option (List (Literal × Json))
  | .emptyObject _ => some []
  | .object members => some members.entries
  | _ => none

/-- The value of the last member whose name is spelled so. -/
def lastValue? (entries : List (Literal × Json)) (name : String) : Option Json :=
  (entries.reverse.find? (·.1.Spells name)).map Prod.snd

structure Document where
  before : Space
  root : Tree
  after : Space

def Document.text (d : Document) : List Char :=
  d.before.chars ++ d.root.spelled id ++ d.after.chars

end VoxelGrid.Json
