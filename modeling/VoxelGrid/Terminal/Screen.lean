import VoxelGrid.Text.Blank
import VoxelGrid.Text.Columns

/-!
Text as a terminal shows it: control characters without an effect are dropped, tabs reach the next
multiple of eight columns, lines that are too long are broken between words, words that are too long
are broken anywhere, and no line ends in spaces.
-/

namespace VoxelGrid.Terminal

def dropped : List Char := ['\x07', '\x08', '\x0b', '\x0c', '\r']

/-- Joins the texts between tabs. A tab takes one column at least. -/
def joinAtTabs : List (List Char) → List Char
  | [] => []
  | [text] => text
  | text :: rest =>
    let columns := Columns.ofText (text ++ [' '])
    text ++ List.replicate (1 + (8 - columns % 8) % 8) ' ' ++ joinAtTabs rest

def expandTabs (line : List Char) : List Char := joinAtTabs (line.splitOn '\t')

/-- Blanks and the separators among the controls. -/
def isGap (c : Char) : Bool := Blank.isBlank c || 0x1C ≤ c.toNat && c.toNat ≤ 0x1F

def withoutGap (word : List Char) : List Char := (word.reverse.dropWhile isGap).reverse

/-- The words of a line, each with the gap after it, and the first one with that before it. -/
def words (line : List Char) : List (List Char) :=
  match line.splitBy fun c d => !isGap c || isGap d with
  | first :: second :: rest =>
    if first.all isGap then (first ++ second) :: rest else first :: second :: rest
  | short => short

/-- Breaks a text into pieces of at most `width` columns, where `piece` is the one begun. -/
def piecesFrom (width : Nat) (piece : List Char) (columns : Nat) :
    List Columns.Cluster → List (List Char)
  | [] => [piece]
  | cluster :: rest =>
    if columns + cluster.columns ≤ width then
      piecesFrom width (piece ++ cluster.text) (columns + cluster.columns) rest
    else piece :: piecesFrom width cluster.text cluster.columns rest

def pieces (width : Nat) (text : List Char) : List (List Char) :=
  piecesFrom width [] 0 (Columns.clusters text)

/-- Sets words on lines of at most `width` columns, gaps at their ends apart, where `line` is the
one begun. -/
def wrapFrom (width : Nat) (line : List Char) : List (List Char) → List (List Char)
  | [] => [line]
  | word :: rest =>
    let columns := Columns.ofText (withoutGap word)
    if Columns.ofText line + columns ≤ width then wrapFrom width (line ++ word) rest
    else
      let before := if line = [] then [] else [line]
      if columns ≤ width then before ++ wrapFrom width word rest
      else
        let broken := pieces width word
        before ++ broken.dropLast ++ wrapFrom width (broken.getLastD []) rest

/-- Takes from a gap at the end of a line what goes past `width` characters. -/
def cropGap (width : Nat) (line : List Char) : List Char :=
  let gap := line.length - (withoutGap line).length
  line.take (line.length - min gap (line.length - width))

def wrap (width : Nat) (line : List Char) : List (List Char) :=
  if Columns.ofText line ≤ width then [line]
  else (wrapFrom width [] (words line)).map (cropGap width)

def trimEnd (line : List Char) : List Char := (line.reverse.dropWhile (· = ' ')).reverse

/-- The lines of a printed text on a screen of some width. -/
def shown (width : Nat) (text : String) : List String :=
  (((text.toList.filter (!dropped.contains ·)).splitOn '\n').flatMap fun line =>
    wrap width (expandTabs line)).map fun line => String.ofList (trimEnd line)

end VoxelGrid.Terminal
