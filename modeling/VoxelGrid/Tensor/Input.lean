import VoxelGrid.Error
import VoxelGrid.Tensor.Nested

/-!
Arrays as they are handed in, and their conversion to words. A plain nested list is converted with
checks: floating-point numbers lose their fraction and a number outside the word is refused. An array
that already has an element type is converted without checks, modulo the number of words. An array of
objects keeps what is irregular in a nested list as lists in its cells.
-/

namespace VoxelGrid

inductive Scalar where
  | int (n : Int)
  | float (x : Binary64)
  | bool (b : Bool)
  | null
  | list

inductive Input where
  | plain (data : Nested Scalar)
  | typed (type : ElementType) (cells : Tensor Scalar)

namespace Scalar

def whole : Scalar → Except Error Int
  | .int n => .ok n
  | .bool b => .ok (if b then 1 else 0)
  | .null => .error .missingNumber
  | .list => .error .listForNumber
  | .float .nan => .error .notANumber
  | .float (.infinite _) => .error .infiniteNumber
  | .float x => match x.trunc? with
    | some n => .ok n
    | none => .error .notANumber

def InInt64 (n : Int) : Prop := -0x8000000000000000 ≤ n ∧ n < 0x8000000000000000

def InUInt64 (n : Int) : Prop := 0 ≤ n ∧ n < 0x10000000000000000

instance : DecidablePred InInt64 := fun _ => inferInstanceAs (Decidable (_ ∧ _))

instance : DecidablePred InUInt64 := fun _ => inferInstanceAs (Decidable (_ ∧ _))

def int64OfInt (n : Int) : Except Error Int64 :=
  if InInt64 n then .ok (.ofInt n) else .error .integerTooLarge

def uint64OfInt (n : Int) : Except Error UInt64 :=
  if InUInt64 n then .ok (.ofNat n.toNat)
  else if InInt64 n then .error (.negativeUnsigned n)
  else .error .integerTooLarge

def toInt64 (s : Scalar) : Except Error Int64 := s.whole >>= int64OfInt

def toUInt64 (s : Scalar) : Except Error UInt64 := s.whole >>= uint64OfInt

/-- The word that a cell of a typed array becomes. A floating-point number outside the words
becomes the lowest one. -/
def castInt64 : Scalar → Int64
  | .int n => .ofInt n
  | .bool b => if b then 1 else 0
  | .null | .list => .minValue
  | .float x => match x.trunc? with
    | some n => if InInt64 n then .ofInt n else .minValue
    | none => .minValue

def castUInt64 : Scalar → UInt64
  | .float x => match x.trunc? with
    | some n => if InInt64 n ∨ InUInt64 n then .ofInt n else 0x8000000000000000
    | none => 0x8000000000000000
  | s => s.castInt64.toUInt64

/-- The element type of a list of this scalar alone. -/
def kind : Scalar → ElementType
  | .int n => if InInt64 n then .int64 else if InUInt64 n then .uint64 else .object
  | .float _ => .float64
  | .bool _ => .bool
  | .null | .list => .object

/-- The scalar as a cell of an array of the given type. -/
def stored (type : ElementType) (s : Scalar) : Except Error Scalar :=
  match type with
  | .object => .ok s
  | .bool => match s with
    | .int n => .ok (.bool (n ≠ 0))
    | .float x => .ok (.bool ¬x.IsZero)
    | .bool b => .ok (.bool b)
    | .null | .list => .ok (.bool false)
  | _ => match type.significandBits? with
    | some bits => match s with
      | .int n => .ok (.float ((Binary64.ofInt n).narrow bits))
      | .bool b => .ok (.float (.ofInt (if b then 1 else 0)))
      | .float x => .ok (.float (x.narrow bits))
      | .null | .list => .ok (.float .nan)
    | none => Scalar.int <$> s.whole

end Scalar

namespace Input

def irregular (shape : Shape) : Error :=
  if shape.length = Shape.maxRank then .tooDeep else .ragged shape

def regular (data : Nested Scalar) : Except Error (Tensor Scalar) :=
  data.toTensor.mapError irregular

/-- The array of the regular axes of a nested list. -/
def objects (data : Nested Scalar) : Except Error (Tensor Scalar) :=
  match data.toTensor with
  | .ok cells => .ok cells
  | .error shape => regular (data.cut .list shape.length)

def ofTyped (type : ElementType) (data : Nested Scalar) : Except Error Input := do
  let cells ← if type = .object then objects data else regular data
  return .typed type (← cells.traverse (Scalar.stored type))

def toInt64 : Input → Except Error (Tensor Int64)
  | .plain data => regular data >>= (·.traverse Scalar.toInt64)
  | .typed .object cells => cells.traverse Scalar.toInt64
  | .typed _ cells => .ok (cells.map Scalar.castInt64)

def toUInt64 : Input → Except Error (Tensor UInt64)
  | .plain data => regular data >>= (·.traverse Scalar.toUInt64)
  | .typed .object cells => cells.traverse Scalar.toUInt64
  | .typed _ cells => .ok (cells.map Scalar.castUInt64)

/-- The common type of all cells; an empty list counts as floating-point. -/
def inferType (cells : List Scalar) : ElementType :=
  match cells with
  | [] => .float64
  | c :: rest => rest.foldl (fun type s => type.join s.kind) c.kind

/-- The array with the element type it has, or the one inferred from its cells. -/
def resolve : Input → Except Error (ElementType × Tensor Scalar)
  | .plain data => (regular data).map fun cells => (inferType cells.cells, cells)
  | .typed type cells => .ok (type, cells)

end Input

end VoxelGrid
