import Assay.Text.Columns

/-!
# Tables

Cells in rows and columns, drawn with characters of ASCII. Every column is as wide as its widest
line and a blank on either side; every row is as high as its highest cell.
-/

namespace Assay

/-- A table of texts. -/
structure Table where
  /-- The names of the columns. -/
  header : List String
  /-- The cells, row by row. -/
  rows : List (List String)

namespace Table

/-- The lines of a cell. -/
def cellLines (cell : String) : List (List Char) := Text.splitBy (· == '\n') cell.toList

/-- The columns that the widest line of a cell takes. -/
def cellWidth (cell : String) : Nat := ((cellLines cell).map Text.columns).foldl max 0

/-- The greater of two widths, place by place. -/
def widen : List Nat → List Nat → List Nat
  | [], right => right
  | left, [] => left
  | left :: lefts, right :: rights => max left right :: widen lefts rights

/-- The widths of the columns without the blanks beside them. -/
def widths (table : Table) : List Nat :=
  (table.header :: table.rows).foldl (fun widest row => widen widest (row.map cellWidth)) []

/-- A line of a cell, filled up to the width of its column, with a blank on either side. -/
def pad (width : Nat) (line : List Char) : List Char :=
  ' ' :: line ++ List.replicate (width - Text.columns line) ' ' ++ [' ']

/-- Pieces of a line with a character at both ends and another one between them. -/
def frame (outer inner : Char) (pieces : List (List Char)) : List Char :=
  outer :: [inner].intercalate pieces ++ [outer]

/-- A line between rows. -/
def rule (outer inner fill : Char) (widths : List Nat) : List Char :=
  frame outer inner (widths.map fun width => List.replicate (width + 2) fill)

/-- The lines of a row. -/
def rowLines (widths : List Nat) (row : List String) : List (List Char) :=
  let cells := row.map cellLines
  let height := (cells.map List.length).foldl max 0
  (List.range height).map fun place =>
    frame '|' '|' (List.zipWith (fun width cell => pad width (cell.getD place [])) widths cells)

/-- The lines of rows with rules between them. -/
def bodyLines (widths : List Nat) : List (List String) → List (List Char)
  | [] => []
  | [row] => rowLines widths row
  | row :: rows => rowLines widths row ++ rule '|' '+' '-' widths :: bodyLines widths rows

/-- The lines of a table. -/
def lines (table : Table) : List (List Char) :=
  let widths := table.widths
  rule '+' '+' '-' widths :: rowLines widths table.header ++
    rule '+' '=' '=' widths :: bodyLines widths table.rows ++ [rule '+' '+' '-' widths]

/-- The text of a table. -/
def draw (table : Table) : String :=
  "\n".intercalate (table.lines.map String.ofList)

end Table

end Assay
