import Pagewright.Console.Markup
import Pagewright.Console.Wrap
import Pagewright.Decimal.Binary

/-!
Tables and panels on a console. A table has a title in the middle, a head and rows in a frame. A column is
as wide as its widest line; where the columns do not fit beside each other, the widest are made narrower
first, and cells that are too narrow for a word cut it with an ellipsis. A panel is a text in a frame as wide
as the console, with a title in the middle of its upper edge.
-/

namespace Pagewright.Console

/-- A column of a table: its head and where the text in it stands. -/
structure Column where
  head : String
  place : Justify := .left

/-- A table: its title, columns and rows are markup. -/
structure Grid where
  title : String
  columns : List Column
  rows : List (List String)

/-- A column with its cells as they show, the head first. -/
structure ShownColumn where
  place : Justify
  cells : List (List Char)

/-- Characters at which a text ends a line when its width is measured. -/
def endsLine (c : Char) : Bool :=
  [10, 11, 12, 13, 28, 29, 30, 0x85, 0x2028, 0x2029].contains c.toNat

/-- The cells of the widest line of a text. -/
def textWidth (s : List Char) : Nat :=
  (s.splitOnP endsLine).foldl (fun n line => max n (cellCount line)) 0

/-- The columns of a table; cells beyond the last head have columns without one. -/
def Grid.allColumns (grid : Grid) : List Column :=
  let count := grid.rows.foldl (fun n row => max n row.length) 0
  grid.columns ++ List.replicate (count - grid.columns.length) ⟨"", .left⟩

/-- A column of a table as it shows. -/
def Grid.showColumn (grid : Grid) (column : Column) (position : Nat) : Except Fault ShownColumn := do
  let texts := column.head :: grid.rows.map (·.getD position "")
  return ⟨column.place, ← texts.mapM fun text => do return (← render text).toList⟩

/-- The width that a column asks for, a blank at each side included. -/
def ShownColumn.wanted (column : ShownColumn) : Nat :=
  column.cells.foldl (fun n cell => max n (textWidth cell)) 0 + 2

/-- Widths with `excess` taken off those that may lose something, in equal parts; each has with it what it
may lose at most, and `count` of them may lose something. -/
def reduceWidths : Nat → Nat → List (Nat × Nat) → List Nat
  | _, _, [] => []
  | excess, count, (width, most) :: rest =>
    if most == 0 then width :: reduceWidths excess count rest
    else
      let part := min most (Decimal.roundDiv excess count)
      (width - part) :: reduceWidths (excess - part) (count - 1) rest

/-- The cells of all columns. -/
def totalWidth (widths : List Nat) : Nat := widths.foldl (· + ·) 0

/-- The widest widths made narrower until all fit or are equal; `fuel` bounds the steps. -/
def collapseWidths (limit : Nat) : Nat → List Nat → List Nat
  | 0, widths => widths
  | fuel + 1, widths =>
    let excess := totalWidth widths - limit
    let widest := widths.foldl max 0
    let second := (widths.filter (· != widest)).foldl max 0
    if excess == 0 || widest == second then widths
    else
      let most (width : Nat) : Nat := if width == widest then min excess (widest - second) else 0
      collapseWidths limit fuel
        (reduceWidths excess (widths.count widest) (widths.map fun width => (width, most width)))

/-- The widths of columns within a limit. -/
def fitWidths (limit : Nat) (wanted : List Nat) : List Nat :=
  let widths := wanted.map fun width => max 1 (min limit width)
  let collapsed := collapseWidths limit (widths.length + 1) widths
  reduceWidths (totalWidth collapsed - limit) collapsed.length (collapsed.map fun width => (width, width))

/-- The lines of a cell in a column of a width; a column without room has none. -/
def ShownColumn.cellLines (column : ShownColumn) (width row : Nat) : List (List Char) :=
  if width ≤ 2 then []
  else (wrap (width - 2) .ellipsis column.place (column.cells.getD row [])).map fun line =>
    ' ' :: line ++ [' ']

/-- The lines of a cell with blank ones before or after them up to a height. -/
def padLines (atBottom : Bool) (height width : Nat) (lines : List (List Char)) : List (List Char) :=
  let padding := List.replicate (height - lines.length) (blank width)
  if atBottom then padding ++ lines else lines ++ padding

/-- A line of a table between its edges. -/
def gridLine (left divider right : Char) (cells : List (List Char)) : List Char :=
  left :: Text.join [divider] cells ++ [right]

/-- A rule of a table. -/
def gridRule (left line divider right : Char) (widths : List Nat) : List Char :=
  gridLine left divider right (widths.map fun width => List.replicate width line)

/-- The lines of cells beside each other, line by line. -/
def besideLines : Nat → List (List (List Char)) → List (List (List Char))
  | 0, _ => []
  | height + 1, cells => cells.map (·.headD []) :: besideLines height (cells.map (·.drop 1))

/-- The lines of a row, the head being row 0. -/
def gridRow (columns : List (ShownColumn × Nat)) (row : Nat) : List (List Char) :=
  let cells := columns.map fun (column, width) => (width, column.cellLines width row)
  let height := cells.foldl (fun n cell => max n cell.2.length) 1
  let padded := cells.map fun (width, lines) => padLines (row == 0) height width lines
  let edge := if row == 0 then '┃' else '│'
  (besideLines height padded).map (gridLine edge edge edge)

/-- The title of a table in the middle above it. -/
def titleLines (width : Nat) (title : String) : Except Fault (List (List Char)) :=
  if title.isEmpty then .ok []
  else do return wrap width .fold .center (← render title).toList

/-- The lines of a table on a console of a width. -/
def Grid.lines (consoleWidth : Nat) (grid : Grid) : Except Fault (List (List Char)) := do
  let columns ← grid.allColumns.zipIdx.mapM fun (column, position) => grid.showColumn column position
  if columns.isEmpty then return [[]]
  let frame := columns.length + 1
  let widths := fitWidths (consoleWidth - frame) (columns.map (·.wanted))
  let title ← titleLines (totalWidth widths + frame) grid.title
  let row := gridRow (columns.zip widths)
  return title ++ [gridRule '┏' '━' '┳' '┓' widths] ++ row 0 ++ [gridRule '┡' '━' '╇' '┩' widths]
    ++ (List.range grid.rows.length).flatMap (fun k => row (k + 1))
    ++ [gridRule '└' '─' '┴' '┘' widths]

/-- The upper edge of a panel with what its title shows, on one line. -/
def titledEdge (consoleWidth : Nat) (title : List Char) : List Char :=
  let oneLine := title.map fun c => if c == '\n' then ' ' else c
  let shown := cut (consoleWidth - 4) .fold (' ' :: expandTabs 0 oneLine ++ [' '])
  let free := consoleWidth - 4 - cellCount shown
  '╭' :: '─' :: List.replicate (free / 2) '─' ++ shown ++ List.replicate (free - free / 2) '─'
    ++ ['─', '╮']

/-- An edge of a panel without a title. -/
def plainEdge (consoleWidth : Nat) (left right : Char) : List Char :=
  left :: List.replicate (consoleWidth - 2) '─' ++ [right]

/-- The lines of a panel on a console of a width. Its title and its text are markup. -/
def panelLines (consoleWidth : Nat) (title body : String) : Except Fault (List (List Char)) := do
  let upper ← if title.isEmpty then pure (plainEdge consoleWidth '╭' '╮')
    else do pure (titledEdge consoleWidth (← render title).toList)
  let lines := wrap (consoleWidth - 4) .fold .free (← render body).toList
  let framed := lines.map fun line =>
    '│' :: ' ' :: line ++ blank (consoleWidth - 4 - cellCount line) ++ [' ', '│']
  return upper :: framed ++ [plainEdge consoleWidth '╰' '╯']

end Pagewright.Console
