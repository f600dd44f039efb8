import VoxelGrid.Terminal.Command

/-!
The command line program, over the files of the system.
-/

namespace VoxelGrid

def usageLines : List String :=
  ["Usage: [--version] [--verbose] COMMAND [ARGS]...",
    "Commands: split, encode, decode, power, list-presets, layout"]

/-- The fault behind a failed access to a file. Some calls give their error number negated. -/
def faultOf : IO.Error → Option Storage.Fault
  | .noFileOrDirectory .. => some .notFound
  | .invalidArgument _ code _ => if code = 36 ∨ code = -36 then some .nameTooLong else none
  | .inappropriateType _ code _ =>
    some (if code = 20 ∨ code = -20 then .notADirectory else .isDirectory)
  | _ => none

def guarded {α : Type} (action : IO α) : IO (Except Storage.Fault α) := do
  try
    return .ok (← action)
  catch e =>
    match faultOf e with
    | some fault => return .error fault
    | none => throw e

instance : Storage.Access IO where
  read path := guarded do return (← IO.FS.readBinFile path).toList
  write path content := guarded (IO.FS.writeBinFile path ⟨content.toArray⟩)

/-- The width of the screen is what the environment says, or else that of an ordinary terminal. -/
def currentHost : IO Host := do
  let columns ← IO.getEnv "COLUMNS"
  return { Host.standard with columns := (columns.bind String.toNat?).getD 80 }

end VoxelGrid

def main (arguments : List String) : IO UInt32 := do
  let host ← VoxelGrid.currentHost
  let (outcome, _) ← (VoxelGrid.Terminal.run host arguments : IO _)
  match outcome with
  | .finished _ lines => lines.forM fun line => IO.println line
  | .help => VoxelGrid.usageLines.forM fun line => IO.println line
  | .usage => VoxelGrid.usageLines.forM fun line => IO.eprintln line
  return outcome.exitCode.toUInt32
