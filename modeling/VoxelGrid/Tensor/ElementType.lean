/-!
Element types of arrays, and the type that a list of unlike scalars is given: the narrowest one for
both kinds, where signed and unsigned words have only the floating-point numbers in common.
-/

namespace VoxelGrid

inductive ElementType where
  | bool
  | int8
  | int16
  | int32
  | int64
  | uint8
  | uint16
  | uint32
  | uint64
  | float16
  | float32
  | float64
  | object
  deriving DecidableEq

namespace ElementType

def name : ElementType → String
  | .bool => "bool"
  | .int8 => "int8"
  | .int16 => "int16"
  | .int32 => "int32"
  | .int64 => "int64"
  | .uint8 => "uint8"
  | .uint16 => "uint16"
  | .uint32 => "uint32"
  | .uint64 => "uint64"
  | .float16 => "float16"
  | .float32 => "float32"
  | .float64 => "float64"
  | .object => "object"

def ofName? (s : String) : Option ElementType :=
  [bool, int8, int16, int32, int64, uint8, uint16, uint32, uint64, float16, float32, float64,
    object].find? (·.name = s)

def isSigned : ElementType → Bool
  | .int8 | .int16 | .int32 | .int64 => true
  | _ => false

def isUnsigned : ElementType → Bool
  | .uint8 | .uint16 | .uint32 | .uint64 => true
  | _ => false

/-- Significant binary digits of the floating-point types. -/
def significandBits? : ElementType → Option Nat
  | .float16 => some 11
  | .float32 => some 24
  | .float64 => some 53
  | _ => none

/-- The common type of two scalars of a plain list. -/
def join (a b : ElementType) : ElementType :=
  if a = b then a
  else match a, b with
    | .object, _ | _, .object => .object
    | .bool, t | t, .bool => t
    | _, _ => .float64

end ElementType

end VoxelGrid
