/-
Tables with borders.

Every column is as wide as its widest line, up to a limit, and wider lines are
broken. A cell of several lines makes its row as high as its highest cell. A row
with fewer cells than the header is filled up with empty ones.

The layout is what comfy-table documents for its preset `UTF8_FULL` and the arrangement
`Dynamic` where the width of the terminal is not known.
-/

import FramedEvents.Text.Wrap

namespace FramedEvents

structure Table where
  header : List String
  rows : List (List String)

namespace Table

/-! ### Cells -/

/-- Puts a character in front of lines. A line feed begins a new first line. -/
def pushFront (character : Char) (lines : List (List Char)) : List (List Char) :=
  if character = '\n' then [] :: lines
  else (character :: lines.headD []) :: lines.tail

/-- The lines of a text, as line feeds separate them. There is one at least. -/
def linesOf (text : List Char) : List (List Char) := text.foldr pushFront [[]]

abbrev Cell := List (List Char)

def cell (text : String) : Cell := linesOf text.toList

def cellWidth (cell : Cell) : Nat := (cell.map Width.ofLine).foldl max 0

def cells (count : Nat) (row : List String) : List Cell :=
  (row.map cell ++ List.replicate (count - row.length) [[]]).take count

/-! ### Columns -/

def widest : Nat := 65535

/-- The widths of the texts in the columns, each of which has room for one
character at least. -/
def columnWidths (rows : List (List Cell)) : List Nat :=
  (rows.foldl
    (fun widths row => List.zipWith max widths (row.map cellWidth))
    (List.replicate (rows.headD []).length 1)).map (min widest)

/-- The width of a column with a blank on both sides of its text. -/
def outerWidth (width : Nat) : Nat := min (width + 2) widest

def broken (width : Nat) (cell : Cell) : Cell :=
  cell.flatMap fun line =>
    if Width.ofLine line > width then Wrap.lines width line else [line]

/-! ### Lines -/

/-- A horizontal line of a table: its ends, its crossings and its filling. -/
structure Rule where
  left : String
  fill : Char
  crossing : String
  right : String

def top : Rule := ⟨"┌", '─', "┬", "┐"⟩

def underHeader : Rule := ⟨"╞", '═', "╪", "╡"⟩

def betweenRows : Rule := ⟨"├", '╌', "┼", "┤"⟩

def bottom : Rule := ⟨"└", '─', "┴", "┘"⟩

def Rule.line (rule : Rule) (widths : List Nat) : String :=
  let fills := widths.map fun width => String.ofList (List.replicate (outerWidth width) rule.fill)
  rule.left ++ String.intercalate rule.crossing fills ++ rule.right

/-- A line of a cell, filled up to the width of its column. -/
def padded (width : Nat) (line : List Char) : String :=
  String.ofList ([' '] ++ line ++ List.replicate (width - Width.ofLine line + 1) ' ')

/-- The place of a line in a cell that has fewer lines than its row. -/
def blank (width : Nat) : String := String.ofList (List.replicate (outerWidth width) ' ')

def rowLine (widths : List Nat) (lines : List (Option (List Char))) : String :=
  let shown := List.zipWith (fun width line => (line.map (padded width)).getD (blank width))
  "│" ++ String.intercalate "┆" (shown widths lines) ++ "│"

def rowLines (widths : List Nat) (row : List Cell) : List String :=
  let shown := (List.zipWith broken widths row).map List.toArray
  let height := (shown.map Array.size).foldl max 0
  (List.range height).map fun index => rowLine widths (shown.map fun cell => cell[index]?)

/-- The lines of a table from its top border to its bottom border. -/
def lines (table : Table) : List String :=
  let count := table.header.length
  let header := cells count table.header
  let rows := table.rows.map (cells count)
  let widths := columnWidths (header :: rows)
  let body := (rows.map (rowLines widths)).intersperse [betweenRows.line widths]
  [top.line widths] ++ rowLines widths header ++ [underHeader.line widths] ++ body.flatten ++
    [bottom.line widths]

def text (table : Table) : String := String.intercalate "\n" table.lines

end Table

end FramedEvents
