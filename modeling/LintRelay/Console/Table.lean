import LintRelay.Console.Layout
import LintRelay.Text.Lines

/-!
# Tables

A table of one column, with a title in the middle above it and a frame around it.  A table is as
wide as its widest cell, unless the console is narrower; then the cells are broken into lines.
-/

namespace LintRelay

/-- A table of one column. -/
structure Table where
  title : List Char
  heading : List Char
  rows : List (List Char)
  deriving DecidableEq, Repr

namespace Table

/-- The number of columns of the console. -/
def consoleColumns : Nat := 80

/-- The columns that a frame takes, a blank on each side of a cell included. -/
def frameColumns : Nat := 4

/-- The columns that a cell would take if it were not broken. -/
def naturalColumns (cell : List Char) : Nat :=
  (Text.lines cell).foldl (fun n l => max n (Text.width l)) 0

/-- The columns that are given to each cell. -/
def cellColumns (t : Table) : Nat :=
  let natural := t.rows.foldl (fun n r => max n (naturalColumns r)) (naturalColumns t.heading)
  min natural (consoleColumns - frameColumns)

/-- A line of a frame around cells of a width: its two ends with what is repeated between them. -/
def rule (columns : Nat) (first middle last : Char) : List Char :=
  first :: List.replicate (columns + 2) middle ++ [last]

/-- The lines of a cell of a width between two strokes of a frame. -/
def cellLines (columns : Nat) (stroke : Char) (cell : List Char) : List (List Char) :=
  (Layout.wrap columns cell).map fun l =>
    stroke :: ' ' :: Layout.left columns l ++ [' ', stroke]

/-- The lines of a table. -/
def lines (t : Table) : List (List Char) :=
  let columns := t.cellColumns
  let whole := columns + frameColumns
  (Layout.wrap whole t.title).map (Layout.center whole) ++
    [rule columns '┏' '━' '┓'] ++ cellLines columns '┃' t.heading ++ [rule columns '┡' '━' '┩'] ++
    t.rows.flatMap (cellLines columns '│') ++ [rule columns '└' '─' '┘']

/-- A table as text. -/
def text (t : Table) : String :=
  String.ofList (t.lines.flatMap fun l => l ++ ['\n'])

end Table

end LintRelay
