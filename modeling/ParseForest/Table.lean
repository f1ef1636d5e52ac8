import ParseForest.Text.Width

namespace ParseForest

/-!
# Tables

Tables are printed without rules or borders: a line of titles, then the rows,
every column padded with spaces to the width of its widest line.  A cell of
several lines takes several lines of output.  A table is printed in small
chunks, so that a place that refuses one of them still gets the others.
-/

/-- A table with its column titles and what is put between columns. -/
structure Table where
  titles : List Text
  gap : Text
  rows : List (List Text)

namespace Table

def pad (width : Nat) (text : Text) : Text :=
  text ++ Text.blanks (width - text.width)

/-- The larger width, column by column. -/
def widen : List Nat → List Nat → List Nat
  | w :: ws, v :: vs => max w v :: widen ws vs
  | ws, [] => ws
  | [], vs => vs

/-- The display width of a cell: that of its widest line. -/
def cellWidth (cell : Text) : Nat :=
  (cell.lines.map Text.width).foldl max 0

def widths (t : Table) : List Nat :=
  (t.titles :: t.rows).foldl (fun ws row => widen ws (row.map cellWidth)) []

/-- The chunks of the line of titles, one for each title.  Behind the last one
stands a single space. -/
def titleChunks (gap : Text) : List (Nat × Text) → List Text
  | [] => []
  | [(w, title)] => [pad w title ++ " "]
  | (w, title) :: rest => (pad w title ++ gap) :: titleChunks gap rest

/-- The chunks of line number `index` of a row: each cell, and behind each the
gap.  A cell that has fewer lines shows two spaces. -/
def lineChunks (gap : Text) (index : Nat) (row : List (Nat × Text)) : List Text :=
  row.flatMap fun (w, cell) => [pad w (cell.lines[index]?.getD "  "), gap]

/-- The chunks of a row, which takes as many lines as its tallest cell. -/
def rowChunks (gap : Text) (ws : List Nat) (row : List Text) : List Text :=
  let height := (row.map (·.lines.length)).foldl max 0
  (List.range height).flatMap fun index => lineChunks gap index (ws.zip row) ++ [Text.lineEnd]

/-- The chunks in which the table is printed. -/
def chunks (t : Table) : List Text :=
  let ws := t.widths
  titleChunks t.gap (ws.zip t.titles) ++ Text.lineEnd :: t.rows.flatMap (rowChunks t.gap ws)

def render (t : Table) : Text :=
  t.chunks.flatten

end Table
end ParseForest
