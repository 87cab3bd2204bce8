import TableIntake.Document.Shown
import TableIntake.Store
import TableIntake.Text.Lines

/-! # Drawn tables

A table as lines of a terminal: a border, the names of the columns, a border, the rows,
and a border. A cell of several lines makes its row as high, and a line that is too wide for
its column is broken.
-/

namespace TableIntake

def StoredCell.text : StoredCell → String
  | .null => ""
  | .int16 value => toString value.toInt
  | .int32 value => toString value.toInt
  | .int64 value => toString value.toInt
  | .float32 bits => singleLayout.single bits
  | .float64 bits => doubleLayout.double bits
  | .binary value => Text.hex value
  | .utf8 value => value

namespace Drawing

abbrev Block := List (List Char)

def block (text : String) : Block :=
  Text.lines text.toList

def width (block : Block) : Nat :=
  (block.map Text.columns).foldr max 0

/-- Neither the text of a column nor its space between two bars is wider than this. -/
def widest : Nat :=
  65535

/-- The width of each column: that of its widest cell, and at least one. -/
def widths (columns : List (List Block)) : List Nat :=
  columns.map fun blocks => min (max 1 ((blocks.map width).foldr max 0)) widest

def space (width : Nat) : Nat :=
  min (width + 2) widest

def border (widths : List Nat) : List Char :=
  '+' :: widths.flatMap (fun width => List.replicate (space width) '-' ++ ['+'])
    ++ (if widths.isEmpty then ['+'] else [])

def padded (width : Nat) (line : List Char) : List Char :=
  ' ' :: line ++ List.replicate (width - Text.columns line + 1) ' '

def fitted (width : Nat) (block : Block) : Block :=
  (block.flatMap (Text.filled width)).map (padded width)

/-- Lines across all cells of a row. A cell with fewer lines is blank below them. -/
def acrossCells : (height : Nat) → (cells : List (Nat × Block)) → List (List Char)
  | 0, _ => []
  | height + 1, cells =>
      ('|' :: cells.flatMap fun (width, block) =>
        block.headD (List.replicate (space width) ' ') ++ ['|']) ::
        acrossCells height (cells.map fun (width, block) => (width, block.tail))

def rowLines (widths : List Nat) (row : List Block) : List (List Char) :=
  let cells := (widths.zip row).map fun (width, block) => (width, fitted width block)
  acrossCells ((cells.map fun (_, block) => block.length).foldr max 0) cells

end Drawing

namespace StoredTable

def rowBlocks (table : StoredTable) (row : Nat) : List Drawing.Block :=
  table.columns.map fun column => Drawing.block (column.cells[row]?.getD .null).text

def drawing (table : StoredTable) : String :=
  let header := table.columns.map fun column => Drawing.block column.name
  let rows := (List.range table.rows).map table.rowBlocks
  let columns := table.columns.map fun column =>
    Drawing.block column.name :: column.cells.toList.map fun cell => Drawing.block cell.text
  let widths := Drawing.widths columns
  let border := Drawing.border widths
  let lines := border :: Drawing.rowLines widths header ++ border ::
    rows.flatMap (Drawing.rowLines widths) ++ [border]
  String.intercalate "\n" (lines.map String.ofList)

end StoredTable

end TableIntake
