import VoxelGrid.Batch.Estimate
import VoxelGrid.Key.Codec
import VoxelGrid.Tensor.Input

/-!
Keys of many pairs at once, over words. The guards of the encoder come before any product that could
leave the word, and the decoder moves an estimate of the diagonal, which may be one off, to the exact
one.
-/

namespace VoxelGrid

namespace Batch

/-- A component or a sum from here on has no key. -/
def pairLimit : UInt64 := 0x100000000

def maxDiagonal : UInt64 := 0xFFFFFFFF

def maxKey : UInt64 := 0x7FFFFFFFFFFFFFFF

def foldWord (x : Int64) : UInt64 :=
  if 0 ≤ x then x.toUInt64 * 2 else (-(x + 1)).toUInt64 * 2 + 1

def unfoldWord (y : UInt64) : Int64 :=
  let half := (y >>> 1).toInt64
  if y &&& 1 = 0 then half else -half - 1

def foldAll (values : Tensor Int64) : Tensor UInt64 := values.map foldWord

def unfoldAll (values : Tensor UInt64) : Tensor Int64 := values.map unfoldWord

def pairWord (first second : UInt64) : UInt64 :=
  let sum := first + second
  sum * (sum + 1) / 2 + second

def checkRank (t : Tensor Int64) : Except Error Unit :=
  if Shape.maxJoinRank < t.shape.length then .error (.rankTooLarge t.shape.length) else .ok ()

def encode (xs ys : Tensor Int64) : Except Error (Tensor UInt64) := do
  checkRank xs
  checkRank ys
  match (foldAll xs).zip? (foldAll ys) with
  | none => .error (.shapeMismatch xs.shape ys.shape)
  | some pairs =>
    if pairs.any fun (first, second) => pairLimit ≤ first || pairLimit ≤ second then
      .error .componentsTooLarge
    else if pairs.any fun (first, second) => pairLimit ≤ first + second then
      .error .componentsTooLarge
    else
      let keys := pairs.map fun (first, second) => pairWord first second
      if keys.any (maxKey < ·) then .error .keysTooLarge else .ok keys

def triangle (j : UInt64) : UInt64 := j * (j + 1) / 2

def clamp (estimate : UInt64) : UInt64 := if estimate < maxDiagonal then estimate else maxDiagonal

/-- One step down where the diagonal starts past the key. -/
def stepDown (j c : UInt64) : UInt64 := if c < triangle j then j - 1 else j

/-- One step up where the next diagonal does not start past the key. -/
def stepUp (j c : UInt64) : UInt64 := if triangle j + j + 1 ≤ c then j + 1 else j

def correct (estimate c : UInt64) : UInt64 := stepUp (stepDown (clamp estimate) c) c

def unpairWord (estimate c : UInt64) : UInt64 × UInt64 :=
  let j := correct estimate c
  let second := c - triangle j
  (j - second, second)

/-- Decodes words that are keys, starting from an estimate of each one's diagonal. -/
def decodeFrom (estimate : UInt64 → UInt64) (keys : Tensor UInt64) :
    Except Error (Tensor Int64 × Tensor Int64) :=
  if keys.any (maxKey < ·) then .error .keysOutOfRange
  else
    let pairs := keys.map fun c => unpairWord (estimate c) c
    .ok (unfoldAll (pairs.map Prod.fst), unfoldAll (pairs.map Prod.snd))

def estimate (c : UInt64) : UInt64 := .ofNat (Estimate.diagonal c.toNat)

/-- Keys must be words of one kind; a signed word must not be negative. -/
def keyWords (type : ElementType) (cells : Tensor Scalar) : Except Error (Tensor UInt64) :=
  if type.isSigned then
    if cells.any (·.castInt64 < 0) then .error .negativeKeys
    else .ok (cells.map Scalar.castUInt64)
  else if type.isUnsigned then .ok (cells.map Scalar.castUInt64)
  else .error (.keysNotIntegers type)

end Batch

namespace Input

def foldAll (values : Input) : Except Error (Tensor UInt64) := values.toInt64.map Batch.foldAll

def unfoldAll (values : Input) : Except Error (Tensor Int64) := values.toUInt64.map Batch.unfoldAll

def encode (xs ys : Input) : Except Error (Tensor UInt64) := do
  let xs ← xs.toInt64
  Batch.encode xs (← ys.toInt64)

def decodeFrom (estimate : UInt64 → UInt64) (keys : Input) :
    Except Error (Tensor Int64 × Tensor Int64) := do
  let (type, cells) ← keys.resolve
  Batch.decodeFrom estimate (← Batch.keyWords type cells)

def decode (keys : Input) : Except Error (Tensor Int64 × Tensor Int64) :=
  keys.decodeFrom Batch.estimate

end Input

end VoxelGrid
