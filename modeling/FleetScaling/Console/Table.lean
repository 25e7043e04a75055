import FleetScaling.Console.Width
import FleetScaling.Text.Blank

/-!
# Tables

A table has a head and rows below it. Every column is as wide as its widest line, a cell of several
lines makes its row higher, and the outer corners are round.
-/

namespace FleetScaling.Console

open FleetScaling.Text

/-- A table of texts. -/
structure Table where
  head : List String
  rows : List (List String)

namespace Table

/-- The lines of a cell. -/
def cellLines (cell : String) : List String :=
  (pieces (· == '\n') cell.toList).map String.ofList

/-- The width of the widest line of a cell. -/
def cellWidth (cell : String) : Nat := ((cellLines cell).map width).foldl max 0

/-- The widths that are needed for a row, at least the given ones. -/
def widen (widths : List Nat) (row : List String) : List Nat :=
  widths.zipWith (fun width cell => max width (cellWidth cell)) row

/-- The width of each column. -/
def columnWidths (t : Table) : List Nat := t.rows.foldl widen (t.head.map cellWidth)

/-- A text with blanks after it up to the given width. -/
def filled (columnWidth : Nat) (text : String) : String :=
  text ++ "".pushn ' ' (columnWidth - width text)

/-- A line of cells. -/
def cellsLine (widths : List Nat) (cells : List String) : String :=
  "│ " ++ joined " │ " (widths.zipWith filled cells) ++ " │"

/-- The lines of a row; a cell with fewer lines than the row goes on with empty ones. -/
def rowLines (widths : List Nat) (row : List String) : List String :=
  let cells := row.map cellLines
  let height := (cells.map List.length).foldl max 0
  (List.range height).map fun i => cellsLine widths (cells.map fun lines => lines.getD i "")

/-- A horizontal line with the given ends and crossings. -/
def rule (left crossing right : String) (widths : List Nat) : String :=
  left ++ joined crossing (widths.map fun width => "".pushn '─' (width + 2)) ++ right

/-- The lines of the table. -/
def lines (t : Table) : List String :=
  let widths := t.columnWidths
  [rule "╭" "┬" "╮" widths] ++ rowLines widths t.head ++ [rule "├" "┼" "┤" widths] ++
    t.rows.flatMap (rowLines widths) ++ [rule "╰" "┴" "╯" widths]

end Table

end FleetScaling.Console
