import Spreadsheet.Grid
import Spreadsheet.Value.Convert

/-! Grids as values. A cell holds text; its value is found when it is read. -/

namespace Spreadsheet.Grid

def typedCell (grid : Grid) (address : Address) : Value :=
  .ofCellText (grid.valueAt address.row address.column)

def typedRow (cells : List Cell) (columns : List UInt16) : List Value :=
  columns.map fun column =>
    match cells[column.toNat]? with
    | some cell => .ofCellText cell.value
    | none => .empty

/-- Values of a rectangle, row by row. A row the grid lacks has as many empty ones as there are
columns by count. -/
def typedRange (grid : Grid) (range : Range) : Value :=
  .array <| range.rows.map fun row =>
    match grid.row? row with
    | some cells => typedRow cells range.columns
    | none => List.replicate range.columnCount.toNat .empty

end Spreadsheet.Grid
