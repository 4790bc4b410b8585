import JetStream.Text.Split
import JetStream.Text.LineWidth

/-!
# Tables

A table is drawn with box characters.  Each column is as wide as its widest cell, with a blank on
both sides; a cell with line breaks takes several lines.
-/

namespace JetStream.Text

/-- A cell, as its lines. -/
abbrev Cell := List String

/-- The cell of a text. -/
def Cell.ofText (s : String) : Cell := split '\n' s

/-- The columns that a cell takes. -/
def Cell.columns (cell : Cell) : Nat :=
  (cell.map width).foldl max 0

/-- The widths that hold all cells of some rows. -/
def columnWidths (rows : List (List Cell)) : List Nat :=
  rows.foldl (fun widths row => List.zipWith max widths (row.map Cell.columns))
    ((rows.headD []).map fun _ => 0)

/-- The characters of a line across the table. -/
structure Ruling where
  left : Char
  fill : Char
  between : Char
  right : Char

/-- The line above a table. -/
def topRuling : Ruling := ⟨'┌', '─', '┬', '┐'⟩

/-- The line below the header. -/
def headerRuling : Ruling := ⟨'╞', '═', '╪', '╡'⟩

/-- The line below a table. -/
def bottomRuling : Ruling := ⟨'└', '─', '┴', '┘'⟩

/-- A line across the table. -/
def ruling (r : Ruling) (widths : List Nat) : String :=
  String.ofList
    (r.left :: [r.between].intercalate (widths.map fun w => List.replicate (w + 2) r.fill) ++
      [r.right])

/-- A text in a column, filled up with blanks. -/
def filled (w : Nat) (s : String) : String :=
  " " ++ s ++ String.ofList (List.replicate (w - width s) ' ') ++ " "

/-- One line of a row. -/
def rowLine (widths : List Nat) (texts : List String) : String :=
  "│" ++ "┆".intercalate (List.zipWith filled widths texts) ++ "│"

/-- The lines of a row. -/
def rowLines (widths : List Nat) (row : List Cell) : List String :=
  let height := (row.map List.length).foldl max 0
  (List.range height).map fun i => rowLine widths (row.map fun cell => cell.getD i "")

/-- The table of a header and rows, without a line break at its end. -/
def table (header : List String) (rows : List (List String)) : String :=
  let header := header.map Cell.ofText
  let rows := rows.map fun row => row.map Cell.ofText
  let widths := columnWidths (header :: rows)
  "\n".intercalate
    ([ruling topRuling widths] ++ rowLines widths header ++ [ruling headerRuling widths] ++
      rows.flatMap (rowLines widths) ++ [ruling bottomRuling widths])

end JetStream.Text
