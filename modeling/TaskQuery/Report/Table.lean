import TaskQuery.Report.Cell

namespace TaskQuery.Report

/-- A table. Every row has as many cells as the head. -/
structure Table where
  head : List String
  rows : List (List String)

/-- The characters of a line of the frame: the left end, the filling, the crossing and the right end. -/
structure Rule where
  left : Char
  fill : Char
  crossing : Char
  right : Char

namespace Rule

def top : Rule := ⟨'┏', '━', '┳', '┓'⟩

def middle : Rule := ⟨'┡', '━', '╇', '┩'⟩

def bottom : Rule := ⟨'└', '─', '┴', '┘'⟩

/-- The line over columns of the given widths. -/
def draw (r : Rule) (widths : List Nat) : List Char :=
  r.left :: ([r.crossing].intercalate (widths.map fun w => List.replicate (w + 2) r.fill) ++ [r.right])

end Rule

namespace Table

def widths (t : Table) : List Nat :=
  t.rows.foldl (fun widths row => (widths.zip (row.map measure)).map fun (w, v) => max w v) (t.head.map measure)

/-- The lines of a row; lower cells are filled up with blanks. -/
def rowLines (bar : Char) (widths : List Nat) (row : List String) : List (List Char) :=
  let cells := (widths.zip row).map fun (w, s) => (w, cellLines w s)
  let height := (cells.map fun cell => cell.2.length).foldl max 0
  (List.range height).map fun index =>
    cells.foldl (fun line (w, lines) => line ++ ' ' :: (lines[index]?.getD (List.replicate w ' ')) ++ [' ', bar]) [bar]

def lines (t : Table) : List (List Char) :=
  Rule.top.draw t.widths :: (rowLines '┃' t.widths t.head ++ Rule.middle.draw t.widths ::
    (t.rows.flatMap (rowLines '│' t.widths) ++ [Rule.bottom.draw t.widths]))

/-- The table as text, every line with its end. -/
def draw (t : Table) : String :=
  String.join (t.lines.map fun line => String.ofList line ++ "\n")

end Table

example : (Table.mk ["A"] [["bc"], [""]]).draw = "┏━━━━┓\n┃ A  ┃\n┡━━━━┩\n│ bc │\n│    │\n└────┘\n" := by decide +kernel

end TaskQuery.Report
