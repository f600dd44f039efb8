import VoxelGrid.Layout.Basic

/-!
Named layouts. A name is looked up in lower case, with an underscore for each hyphen and space.
-/

namespace VoxelGrid

structure Preset where
  name : String
  layout : Layout
  description : String

namespace Preset

def all : List Preset :=
  [⟨"default", .standard, "32x64x32 chunks"⟩,
    ⟨"cubic16", ⟨4, 4, 4⟩, "16x16x16 cubic chunks"⟩,
    ⟨"cubic32", ⟨5, 5, 5⟩, "32x32x32 cubic chunks"⟩,
    ⟨"column16", ⟨4, 8, 4⟩, "16x256x16 columns"⟩,
    ⟨"flat", ⟨5, 0, 5⟩, "32x1x32, y unchunked"⟩]

def names : List String := all.map Preset.name

/-- No letter outside ASCII has a lower case form that occurs in a preset's name. -/
def normalize (name : String) : String :=
  name.map fun c => if c = '-' ∨ c = ' ' then '_' else c.toLower

def find? (name : String) : Option Layout :=
  (all.find? (·.name = normalize name)).map Preset.layout

end Preset

end VoxelGrid
