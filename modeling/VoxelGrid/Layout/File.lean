import VoxelGrid.Journal
import VoxelGrid.Json.Reader
import VoxelGrid.Layout.Draft
import VoxelGrid.Storage.Access
import VoxelGrid.Text.Newline

/-!
Layout files. A layout is written as a JSON object with one member on a line; any JSON object is
read, as long as the last binding of each exponent's name is a valid exponent and its values are not
nested too deep for the place where they are read.
-/

namespace VoxelGrid.Layout

open Storage (Access)

def line (name : String) (power : Int) : String := s!"  \"{name}\": {power}"

def document (l : Layout) : String :=
  "\x7b\n" ++ ",\n".intercalate (l.members.map fun (name, power) => line name power) ++ "\n\x7d"

/-- The layout in a text; `file` is the name that messages give it. -/
def ofText (nesting : Nat) (file : String) (text : List Char) : Except Error Layout :=
  match Json.read nesting (Newline.unify text) with
  | .error fault => .error (.malformedJson fault)
  | .ok (.object members) => (Draft.ofMembers members).validate
  | .ok _ => .error (.notAnObject file)

def ofOctets (nesting : Nat) (file : String) (octets : List UInt8) : Except Error Layout :=
  match Utf8.decode octets with
  | .error fault => .error (.malformedText fault)
  | .ok text => ofText nesting file text

variable {m : Type → Type} [Monad m] [Access m]

/-- Writes the document, then reports the sizes. A layout with a negative exponent has none, so it
is written and the call fails all the same. -/
def save (l : Layout) (file : String) : m (Except Error Event) := do
  match ← Access.write file (Utf8.encode l.document.toList) with
  | .error fault => return .error (.storage fault file)
  | .ok () => return l.sizes.map (.savedLayout · file)

def load (nesting : Nat) (file : String) : m (Except Error Layout) := do
  match ← Access.read file with
  | .error fault => return .error (.storage fault file)
  | .ok octets => return ofOctets nesting file octets

def loadEvent (l : Layout) (file : String) : Except Error Event :=
  l.sizes.map (.loadedLayout · file)

end VoxelGrid.Layout
