/-
  VisualNovel.Text.Table

  Tables drawn with ASCII lines. A column is as wide as its widest line, and a
  cell of several lines makes its row higher. Below the header runs a double
  rule without crossings, between rows a single one.
-/

import VisualNovel.Text.Lines
import VisualNovel.Text.Width

namespace VisualNovel.Text

/-- A table of texts. -/
structure Table where
  header : List String
  rows : List (List String)
  deriving DecidableEq, Repr

namespace Table

/-- The lines of a cell. -/
abbrev Cell := List (List Char)

/-- The lines of a text; there is at least one. -/
def cell (s : String) : Cell :=
  splitOn (· == '\n') s.toList

/-- The cells that a cell's widest line takes. -/
def cellWidth (c : Cell) : Nat :=
  (c.map width).foldl max 0

/-- The widths of the columns of some rows. -/
def columnWidths : List (List Cell) → List Nat
  | [] => []
  | row :: rows =>
    let rest := columnWidths rows
    let here := row.map cellWidth
    (List.range (max here.length rest.length)).map fun i => max (here.getD i 0) (rest.getD i 0)

/-- A line of a cell with blanks up to a width. -/
def pad (w : Nat) (cs : List Char) : List Char :=
  cs ++ List.replicate (w - width cs) ' '

/-- One line of a row: the line of each cell between bars. -/
def rowLine (widths : List Nat) (row : List Cell) (i : Nat) : List Char :=
  '|' :: ((widths.zip row).map fun (w, c) => ' ' :: (pad w (c.getD i []) ++ [' ', '|'])).flatten

/-- The lines of a row. -/
def rowLines (widths : List Nat) (row : List Cell) : List (List Char) :=
  (List.range ((row.map List.length).foldl max 1)).map (rowLine widths row)

/-- A rule across the table, with a sign at its ends, one between columns, and one in between. -/
def rule (edge crossing line : Char) (widths : List Nat) : List Char :=
  edge :: ([crossing].intercalate (widths.map fun w => List.replicate (w + 2) line) ++ [edge])

/-- The lines of a table. -/
def lines (t : Table) : List String :=
  let header := t.header.map cell
  let rows := t.rows.map fun row => row.map cell
  -- The header counts as a row when widths are measured.
  let widths := columnWidths (header :: rows)
  let border := rule '+' '+' '-' widths
  let body := [rule '|' '+' '-' widths].intercalate (rows.map (rowLines widths))
  ([border] ++ rowLines widths header ++ [rule '+' '=' '=' widths] ++ body ++ [border]).map String.ofList

end Table

end VisualNovel.Text
