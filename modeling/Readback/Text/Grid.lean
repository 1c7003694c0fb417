import Readback.Text.Width

/-!
# Grids

Tables drawn with box characters: a header, then rows set apart by dashed lines. A cell of several lines makes its row
as high as the highest cell; every column is as wide as its widest line, with a blank on each side.
-/

namespace Readback.Text

/-- On which side of its column a cell stands. -/
inductive Align where
  | left
  | right
  deriving DecidableEq, Repr

/-- A cell's text, by lines, and its side. -/
structure Cell where
  lines : List String
  align : Align
  deriving Repr

/-- The lines of a text, which line feeds divide. -/
def lines (text : String) : List String := (text.toList.splitOn '\n').map String.ofList

/-- The cell of a text. -/
def Cell.ofText (text : String) (align : Align) : Cell := ⟨Text.lines text, align⟩

/-- The columns that a cell needs. -/
def Cell.width (c : Cell) : Nat := (c.lines.map Text.width).foldl max 0

/-- A text filled up with blanks to a width. -/
def pad (columns : Nat) : Align → String → String
  | .left, s => s ++ "".pushn ' ' (columns - Text.width s)
  | .right, s => "".pushn ' ' (columns - Text.width s) ++ s

/-- A line that runs through all columns: its left end, its stroke, its crossings and its right end. -/
structure Rule where
  left : Char
  stroke : Char
  cross : Char
  right : Char

/-- The line above the header. -/
def Rule.top : Rule := ⟨'┌', '─', '┬', '┐'⟩

/-- The line below the header. -/
def Rule.header : Rule := ⟨'╞', '═', '╪', '╡'⟩

/-- The line between two rows. -/
def Rule.between : Rule := ⟨'├', '╌', '┼', '┤'⟩

/-- The line below the last row. -/
def Rule.bottom : Rule := ⟨'└', '─', '┴', '┘'⟩

/-- Draws a line over columns of the given widths. -/
def Rule.draw (r : Rule) (widths : List Nat) : String :=
  r.left.toString ++ r.cross.toString.intercalate (widths.map fun w => "".pushn r.stroke (w + 2)) ++ r.right.toString

/-- A header and rows; a row has a cell for each column of the header. -/
structure Grid where
  header : List Cell
  rows : List (List Cell)

/-- The columns' widths: of the rows' widest cells at each place. -/
def columnWidths : List (List Cell) → List Nat
  | [] => []
  | [row] => row.map Cell.width
  | row :: rest => List.zipWith max (row.map Cell.width) (columnWidths rest)

/-- One line of text of a row. -/
def drawLine (widths : List Nat) (row : List Cell) (i : Nat) : String :=
  "│ " ++ " ┆ ".intercalate (List.zipWith (fun w c => pad w c.align (c.lines.getD i "")) widths row) ++ " │"

/-- All lines of text of a row. -/
def drawRow (widths : List Nat) (row : List Cell) : List String :=
  (List.range ((row.map (·.lines.length)).foldl max 0)).map (drawLine widths row)

/-- The lines of the drawn grid. -/
def Grid.lines (g : Grid) : List String :=
  let widths := columnWidths (g.header :: g.rows)
  [Rule.top.draw widths] ++ drawRow widths g.header ++ [Rule.header.draw widths] ++
    [Rule.between.draw widths].intercalate (g.rows.map (drawRow widths)) ++ [Rule.bottom.draw widths]

/-- The drawn grid, without a line feed at its end. -/
def Grid.draw (g : Grid) : String := "\n".intercalate g.lines

end Readback.Text
