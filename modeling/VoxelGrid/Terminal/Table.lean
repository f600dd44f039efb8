import VoxelGrid.Number.Rounding
import VoxelGrid.Terminal.Screen

/-!
Tables with a title above and lines around. A column is as wide as its longest text, with a space on
either side. Where the table is wider than the screen its widest columns are narrowed, and a text
that is too long for its column ends in an ellipsis. A title wider than the table is broken between
words, and each of its lines is centred.
-/

namespace VoxelGrid.Terminal

inductive Alignment where
  | left
  | right

structure Column where
  header : String
  alignment : Alignment
  cells : List String

structure Table where
  title : String
  columns : List Column
  rows : Nat

def spaces (n : Nat) : String := String.ofList (List.replicate n ' ')

/-- A text of at most `width` characters, one at least, that ends in an ellipsis if it is cut. -/
def shorten (width : Nat) (text : String) : String :=
  if text.length ≤ width then text else String.ofList (text.toList.take (width - 1) ++ ['…'])

namespace Column

/-- The length of the longest text. -/
def extent (c : Column) : Nat := (c.header :: c.cells).foldl (fun w text => max w text.length) 0

def padded (c : Column) (width : Nat) (text : String) : String :=
  let text := shorten width text
  let space := spaces (width - text.length)
  match c.alignment with
  | .left => s!" {text}{space} "
  | .right => s!" {space}{text} "

end Column

def total (widths : List Nat) : Nat := widths.foldr (· + ·) 0

namespace Narrowing

/-- Takes an excess from the columns of one width in equal parts, each of at most `most`. -/
def share (width most : Nat) (excess count : Nat) : List Nat → List Nat
  | [] => []
  | w :: rest =>
    if w = width then
      let part := min most (Rounding.roundDiv excess count)
      (w - part) :: share width most (excess - part) (count - 1) rest
    else w :: share width most excess count rest

/-- Brings the widest columns closer to the next ones. -/
def step (limit : Nat) (widths : List Nat) : List Nat :=
  let excess := total widths - limit
  let widest := widths.foldl max 0
  let next := (widths.filter (· ≠ widest)).foldl max 0
  share widest (min excess (widest - next)) excess (widths.count widest) widths

def steps (limit : Nat) : Nat → List Nat → List Nat
  | 0, widths => widths
  | n + 1, widths => if total widths ≤ limit then widths else steps limit n (step limit widths)

end Narrowing

/-- Widths whose sum is no more than a limit. Every step makes two different widths equal or is the
last one. -/
def narrow (limit : Nat) (widths : List Nat) : List Nat :=
  Narrowing.steps limit widths.length widths

namespace Table

/-- The widths of the columns between the lines, of which there is one more. -/
def widths (t : Table) (screen : Nat) : List Nat :=
  narrow (screen - (t.columns.length + 1)) (t.columns.map (·.extent + 2))

def width (t : Table) (screen : Nat) : Nat := total (t.widths screen) + t.columns.length + 1

def centred (width : Nat) (line : String) : String := spaces ((width - line.length) / 2) ++ line

def titleLines (t : Table) (screen : Nat) : List String :=
  let width := t.width screen
  (wrap width t.title.toList).map fun line => centred width (String.ofList (trimEnd line))

def row (t : Table) (widths : List Nat) (text : Column → String) (stroke : String) : String :=
  let cells := (t.columns.zip widths).map fun (c, width) => c.padded (width - 2) (text c)
  stroke ++ stroke.intercalate cells ++ stroke

def rule (widths : List Nat) (left middle right : String) (stroke : Char) : String :=
  left ++ middle.intercalate (widths.map fun w => String.ofList (List.replicate w stroke)) ++ right

/-- The lines of a table on a screen of some width. -/
def lines (t : Table) (screen : Nat) : List String :=
  let widths := t.widths screen
  t.titleLines screen ++
    [rule widths "┏" "┳" "┓" '━', t.row widths Column.header "┃", rule widths "┡" "╇" "┩" '━'] ++
    (List.range t.rows).map (fun i => t.row widths (fun c => c.cells.getD i "") "│") ++
    [rule widths "└" "┴" "┘" '─']

end Table

end VoxelGrid.Terminal
