import VoxelGrid.Layout.Axis

/-!
What the library reports of its work. Only finished work is reported.
-/

namespace VoxelGrid

inductive Event where
  | encodedPairs (count : Nat)
  | decodedKeys (count : Nat)
  | savedLayout (sizes : Triple Int) (file : String)
  | loadedLayout (sizes : Triple Int) (file : String)
  deriving DecidableEq

namespace Event

def origin : Event → String
  | .encodedPairs _ | .decodedKeys _ => "chunkcodec.batch"
  | .savedLayout _ _ | .loadedLayout _ _ => "chunkcodec.config"

def message : Event → String
  | .encodedPairs count => s!"Encoded {count} pairs"
  | .decodedKeys count => s!"Decoded {count} keys"
  | .savedLayout sizes file => s!"Saved chunk layout {sizes.text} to {file}"
  | .loadedLayout sizes file => s!"Loaded chunk layout {sizes.text} from {file}"

def text (e : Event) : String := s!"DEBUG {e.origin} {e.message}"

end Event

/-- The least severe reports that are shown. -/
def shownFrom (verbose : Bool) : String := if verbose then "DEBUG" else "WARNING"

end VoxelGrid
