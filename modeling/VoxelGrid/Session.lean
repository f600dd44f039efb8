import VoxelGrid.Host
import VoxelGrid.Layout.File
import VoxelGrid.Layout.Preset
import VoxelGrid.Terminal.Command

/-!
Work in one directory with a current layout. A failed step leaves the current layout as it was.
-/

namespace VoxelGrid

structure Session where
  store : Storage.Store
  layout : Layout
  host : Host

namespace Session

def initial : Session := ⟨.empty, .standard, .standard⟩

/-- Makes a layout the current one; none stands for the standard layout. -/
def use (s : Session) (layout : Option Layout) : Session := { s with layout := layout.getD .standard }

def save (s : Session) (file : String) : Except Error Event × Session :=
  let (result, store) :=
    (s.layout.save (Storage.normalize file) : StateM Storage.Store _).run s.store
  (result, { s with store })

/-- Loads a layout and makes it the current one. -/
def load (s : Session) (file : String) : Except Error (Layout × List Event) × Session :=
  let path := Storage.normalize file
  let (result, store) := (Layout.load s.host.nesting path : StateM Storage.Store _).run s.store
  match result with
  | .ok layout => (.ok (layout, (layout.loadEvent path).toOption.toList), { s with store, layout })
  | .error e => (.error e, { s with store })

/-- Writes a file, and makes the directories that enclose it. -/
def write (s : Session) (file : String) (content : List UInt8) : Except Error Unit × Session :=
  let (result, store) := s.store.create file content
  (result.mapError fun (fault, path) => .storage fault path, { s with store })

def read (s : Session) (file : String) : Except Error (List UInt8) :=
  let path := Storage.normalize file
  (s.store.read path).mapError (.storage · path)

/-- Runs a command line, and gives the files it created or changed. -/
def runCommand (s : Session) (arguments : List String) :
    (Terminal.Outcome × List Event) × List (Storage.Place × List UInt8) × Session :=
  let (result, store) := (Terminal.run s.host arguments : StateM Storage.Store _).run s.store
  (result, store.changedSince s.store, { s with store })

end Session

end VoxelGrid
