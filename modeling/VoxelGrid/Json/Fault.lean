import VoxelGrid.Json.Value
import VoxelGrid.Limits

/-!
Why a text is not JSON, and where. While reading, a place is the number of characters from it to the
end of the text; a report gives it as line, column and index.
-/

namespace VoxelGrid.Json

inductive Cause where
  | byteOrderMark
  | expectingValue
  | expectingName
  | expectingColon
  | expectingComma
  | unterminatedString
  | controlCharacter
  | invalidEscape
  | invalidUnicodeEscape
  | extraData
  deriving DecidableEq

inductive Container where
  | array
  | object
  deriving DecidableEq

inductive Refusal where
  | malformed (cause : Cause) (remaining : Nat)
  | tooDeep (container : Container)
  | integerTooLong (digits : Nat)
  deriving DecidableEq

/-- Lines and columns count from one, the index from zero. -/
structure Place where
  line : Nat
  column : Nat
  index : Nat
  deriving DecidableEq

def Place.at (text : List Char) (index : Nat) : Place :=
  let before := text.take index
  ⟨1 + before.count '\n', 1 + (before.reverse.takeWhile (· ≠ '\n')).length, index⟩

inductive Fault where
  | malformed (cause : Cause) (place : Place)
  | tooDeep (container : Container)
  | integerTooLong (digits : Nat)
  deriving DecidableEq

def Refusal.locate (text : List Char) : Refusal → Fault
  | .malformed cause remaining => .malformed cause (.at text (text.length - remaining))
  | .tooDeep container => .tooDeep container
  | .integerTooLong digits => .integerTooLong digits

def Cause.message : Cause → String
  | .byteOrderMark => "Unexpected UTF-8 BOM (decode using utf-8-sig)"
  | .expectingValue => "Expecting value"
  | .expectingName => "Expecting property name enclosed in double quotes"
  | .expectingColon => "Expecting ':' delimiter"
  | .expectingComma => "Expecting ',' delimiter"
  | .unterminatedString => "Unterminated string starting at"
  | .controlCharacter => "Invalid control character at"
  | .invalidEscape => "Invalid \\escape"
  | .invalidUnicodeEscape => "Invalid \\uXXXX escape"
  | .extraData => "Extra data"

def Container.name : Container → String
  | .array => "array"
  | .object => "object"

def Fault.message : Fault → String
  | .malformed cause place =>
    s!"{cause.message}: line {place.line} column {place.column} (char {place.index})"
  | .tooDeep container =>
    s!"maximum recursion depth exceeded while decoding a JSON {container.name} from a unicode string"
  | .integerTooLong digits =>
    s!"Exceeds the limit ({maxDigits} digits) for integer string conversion: " ++
      s!"value has {digits} digits; use sys.set_int_max_str_digits() to increase the limit"

end VoxelGrid.Json
