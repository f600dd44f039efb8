import VoxelGrid.Storage.Store

/-!
Reading and writing whole files, wherever they are kept.
-/

namespace VoxelGrid.Storage

class Access (m : Type → Type) where
  read : String → m (Except Fault (List UInt8))
  write : String → List UInt8 → m (Except Fault Unit)

/-- Files kept in a store; a failed write leaves it alone. -/
instance : Access (StateM Store) where
  read path := return (← get).read path
  write path content := do
    match (← get).write path content with
    | .error fault => return .error fault
    | .ok store =>
      set store
      return .ok ()

end VoxelGrid.Storage
