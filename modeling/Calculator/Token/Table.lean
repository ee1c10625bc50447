import Calculator.Text.Width
import Calculator.Token

/-!
# Tables of tokens

`Token.table` lists tokens in a frame, one a row, under the title and the heads of the columns.  A
column is as wide as its widest cell, and a blank stands on both sides of every cell.
-/

namespace Calculator.Token

open Calculator.Text

/-- The title of a table. -/
def tableTitle : String :=
  "Tokens"

/-- The heads of the columns. -/
def columnHeads : List String :=
  ["Kind", "Text", "Pos"]

/-- How the cells of the columns are aligned. -/
def columnPlacements : List Placement :=
  [.left, .left, .right]

/-- The cells of a token. -/
def cells (t : Token) : List String :=
  [t.kind.name, t.text, toString t.pos]

/-- The widths of the columns of a table with the given rows. -/
def columnWidths (rows : List (List String)) : List Nat :=
  rows.foldl (fun widths row => List.zipWith max widths (row.map width)) [0, 0, 0]

/-- The characters of a line of a table: at its left end, between its columns, and at its right
end. -/
structure Edge where
  left : String
  between : String
  right : String

/-- A line made of one piece for each column. -/
def Edge.line (edge : Edge) (pieces : List String) : String :=
  edge.left ++ edge.between.intercalate pieces ++ edge.right ++ "\n"

/-- A line that fills the columns, and the blanks on both sides of them, with a character. -/
def Edge.rule (edge : Edge) (fill : Char) (widths : List Nat) : String :=
  edge.line (widths.map fun columns => String.ofList (List.replicate (columns + 2) fill))

/-- A line of cells. -/
def Edge.row (edge : Edge) (widths : List Nat) (row : List String) : String :=
  edge.line ((columnPlacements.zip (widths.zip row)).map fun (placement, columns, cell) =>
    " " ++ placed placement columns cell ++ " ")

/-- The number of columns that a table takes. -/
def tableWidth (widths : List Nat) : Nat :=
  widths.foldl (fun total columns => total + columns + 3) 1

/-- The table of tokens. -/
def table (tokens : List Token) : String :=
  let rows := tokens.map cells
  let widths := columnWidths (columnHeads :: rows)
  placed .center (tableWidth widths) tableTitle ++ "\n" ++
    Edge.rule ⟨"┏", "┳", "┓"⟩ '━' widths ++
    Edge.row ⟨"┃", "┃", "┃"⟩ widths columnHeads ++
    Edge.rule ⟨"┡", "╇", "┩"⟩ '━' widths ++
    String.join (rows.map (Edge.row ⟨"│", "│", "│"⟩ widths)) ++
    Edge.rule ⟨"└", "┴", "┘"⟩ '─' widths

end Calculator.Token
