import VoxelGrid.Json.Display
import VoxelGrid.Json.Fault
import VoxelGrid.Layout.Axis
import VoxelGrid.Limits
import VoxelGrid.Storage.Fault
import VoxelGrid.Tensor.ElementType
import VoxelGrid.Tensor.Shape
import VoxelGrid.Text.Utf8

/-!
Everything that can go wrong, by its cause, and the message for each cause. A message that would have
to show an integer of too many digits is not made, and that is then what goes wrong.
-/

namespace VoxelGrid

inductive Error where
  | negativeShift
  | notPowerOfTwo (size : Int)
  | tooFewCoordinates (count : Nat)
  | tooManyCoordinates
  | negativeExtent (extent : Int)
  | negativeRoot
  | negativeComponents (first second : Int)
  | keyTooLarge (first second key : Int)
  | keyOutOfRange (key : Int)
  | powerNotInteger (axis : Axis) (value : Json)
  | powerOutOfRange (axis : Axis) (power : Int)
  | notAnObject (file : String)
  | malformedJson (fault : Json.Fault)
  | malformedText (fault : Utf8.Fault)
  | storage (fault : Storage.Fault) (file : String)
  | ragged (regular : Shape)
  | tooDeep
  | integerTooLarge
  | negativeUnsigned (n : Int)
  | missingNumber
  | listForNumber
  | notANumber
  | infiniteNumber
  | notPoints (shape : Shape)
  | rankTooLarge (rank : Nat)
  | shapeMismatch (first second : Shape)
  | componentsTooLarge
  | keysTooLarge
  | negativeKeys
  | keysNotIntegers (type : ElementType)
  | keysOutOfRange
  | tooManyDigits

namespace Error

/-- Whether a key or what it is made of is out of range. -/
def isKeyRange : Error → Bool
  | .negativeComponents .. | .keyTooLarge .. | .keyOutOfRange _ | .componentsTooLarge | .keysTooLarge
  | .negativeKeys | .keysNotIntegers _ | .keysOutOfRange => true
  | _ => false

def message : Error → String
  | .negativeShift => "negative shift count"
  | .notPowerOfTwo size => s!"Chunk size must be a power of two: {size}"
  | .tooFewCoordinates count => s!"not enough values to unpack (expected 3, got {count})"
  | .tooManyCoordinates => "too many values to unpack (expected 3)"
  | .negativeExtent extent => s!"extent must be >= 0: {extent}"
  | .negativeRoot => "isqrt() argument must be nonnegative"
  | .negativeComponents first second => s!"Pairing inputs must be non-negative: ({first}, {second})"
  | .keyTooLarge first second key => s!"Key for ({first}, {second}) exceeds 64-bit range: {key}"
  | .keyOutOfRange key => s!"Key must be in 0..{keyMax}: {key}"
  | .powerNotInteger axis value => s!"power_{axis.name} must be an integer: {value.display}"
  | .powerOutOfRange axis power => s!"power_{axis.name} must be 0-{maxPower}: {power}"
  | .notAnObject file => s!"Layout file must hold a JSON object: {file}"
  | .malformedJson fault => fault.message
  | .malformedText fault => fault.message
  | .storage fault file =>
    if fault.namesFile then fault.reason ++ ": " ++ (Text.ofString file).quoted else fault.reason
  | .ragged regular =>
    "setting an array element with a sequence. The requested array has an inhomogeneous shape " ++
      s!"after {regular.length} dimensions. " ++
      s!"The detected shape was {regular.text} + inhomogeneous part."
  | .tooDeep =>
    "setting an array element with a sequence. The requested array would exceed the maximum " ++
      s!"number of dimension of {Shape.maxRank}."
  | .integerTooLarge => "Python int too large to convert to C long"
  | .negativeUnsigned n => s!"Python integer {n} out of bounds for uint64"
  | .missingNumber =>
    "int() argument must be a string, a bytes-like object or a real number, not 'NoneType'"
  | .listForNumber =>
    "int() argument must be a string, a bytes-like object or a real number, not 'list'"
  | .notANumber => "cannot convert float NaN to integer"
  | .infiniteNumber => "cannot convert float infinity to integer"
  | .notPoints shape => s!"Expected an (N, 3) array of positions, got shape {shape.text}"
  | .rankTooLarge rank =>
    s!"this function only supports up to {Shape.maxJoinRank} dimensions but the array has {rank}."
  | .shapeMismatch first second =>
    "shape mismatch: objects cannot be broadcast to a single shape.  " ++
      s!"Mismatch is between arg 0 with shape {first.text} and arg 1 with shape {second.text}."
  | .componentsTooLarge => "Pair components too large for a 64-bit key"
  | .keysTooLarge => s!"Keys exceed {keyMax}"
  | .negativeKeys => "Keys must be non-negative"
  | .keysNotIntegers type => s!"Keys must be integers, got dtype {type.name}"
  | .keysOutOfRange => s!"Keys must be in 0..{keyMax}"
  | .tooManyDigits =>
    s!"Exceeds the limit ({maxDigits} digits) for integer string conversion; " ++
      "use sys.set_int_max_str_digits() to increase the limit"

/-- The integers of any size in the message. -/
def integers : Error → List Int
  | .notPowerOfTwo n | .negativeExtent n | .keyOutOfRange n | .powerOutOfRange _ n => [n]
  | .negativeComponents first second => [first, second]
  | .keyTooLarge first second key => [first, second, key]
  | .powerNotInteger _ value => value.integers
  | _ => []

/-- The error as it is raised, once its message is made. -/
def raised (e : Error) : Error :=
  if ∀ n ∈ e.integers, HasNumeral n then e else .tooManyDigits

end Error

end VoxelGrid
