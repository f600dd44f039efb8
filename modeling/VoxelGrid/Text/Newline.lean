/-!
Line ends. A carriage return, alone or before a line feed, ends a line just as a line feed does.
-/

namespace VoxelGrid.Newline

def unify : List Char → List Char
  | [] => []
  | '\r' :: '\n' :: rest => '\n' :: unify rest
  | '\r' :: rest => '\n' :: unify rest
  | c :: rest => c :: unify rest

end VoxelGrid.Newline
