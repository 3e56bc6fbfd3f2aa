/-
Tables in boxes.  A cell may have several lines; every column is as wide as
its widest line, with a blank on either side.
-/
import Stencil.Text.Split
import Stencil.Text.Width

namespace Stencil.Text

/-- A cell by its lines. -/
abbrev Cell := List (List Char)

def cellOf (s : String) : Cell :=
  s.toList.splitOn '\n'

def cellWidth (cell : Cell) : Nat :=
  (cell.map width).foldl Nat.max 0

/-- The widths of the columns, whose number is that of the first row. -/
def columnWidths : List (List Cell) → List Nat
  | [] => []
  | first :: rows =>
      rows.foldl
        (fun widths row => List.zipWith Nat.max widths (row.map cellWidth))
        (first.map cellWidth)

/-- A line filled up with blanks. -/
def fillTo (columns : Nat) (line : List Char) : List Char :=
  line ++ List.replicate (columns - width line) ' '

/-- One line of a row. -/
def boxLine (widths : List Nat) (row : List Cell) (i : Nat) : List Char :=
  '│' :: (List.zipWith
    (fun columns cell => ' ' :: fillTo columns (cell.getD i []) ++ [' ', '│'])
      widths row).flatten

/-- The lines of a row, as many as its highest cell has. -/
def boxRow (widths : List Nat) (row : List Cell) : List (List Char) :=
  let height := (row.map List.length).foldl Nat.max 0
  (List.range height).map (boxLine widths row)

/-- A horizontal rule. -/
def boxRule (left middle right : Char) (widths : List Nat) : List Char :=
  left ::
    List.intercalate [middle]
      (widths.map fun columns => List.replicate (columns + 2) '─') ++
    [right]

/-- The lines of a table with rounded corners and a rule below the first
row. -/
def boxTable (header : List Cell) (rows : List (List Cell)) :
    List (List Char) :=
  let widths := columnWidths (header :: rows)
  boxRule '╭' '┬' '╮' widths :: boxRow widths header ++
    boxRule '├' '┼' '┤' widths :: rows.flatMap (boxRow widths) ++
    [boxRule '╰' '┴' '╯' widths]

/-- A table as text, without a line break at the end. -/
def tableText (header : List String) (rows : List (List String)) : String :=
  String.intercalate "\n"
    ((boxTable (header.map cellOf) (rows.map (·.map cellOf))).map String.ofList)

end Stencil.Text
