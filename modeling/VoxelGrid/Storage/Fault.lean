/-!
Why a file cannot be opened or a directory made.
-/

namespace VoxelGrid.Storage

inductive Fault where
  | notFound
  | alreadyExists
  | notADirectory
  | isDirectory
  | nameTooLong
  | nullInName
  deriving DecidableEq

namespace Fault

def reason : Fault → String
  | .notFound => "[Errno 2] No such file or directory"
  | .alreadyExists => "[Errno 17] File exists"
  | .notADirectory => "[Errno 20] Not a directory"
  | .isDirectory => "[Errno 21] Is a directory"
  | .nameTooLong => "[Errno 36] File name too long"
  | .nullInName => "embedded null byte"

/-- Whether a message names the file. -/
def namesFile (f : Fault) : Bool := f ≠ .nullInName

end Fault

end VoxelGrid.Storage
