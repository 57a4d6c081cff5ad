import Spreadsheet.Cell
import Spreadsheet.Range

namespace Spreadsheet

/-- Rows of cells. What lies outside reads as a blank cell. -/
structure Grid where
  rows : List (List Cell)
  deriving DecidableEq

namespace Grid

def empty : Grid := ⟨[]⟩

def ofValues (rows : List (List String)) : Grid := ⟨rows.map (·.map Cell.plain)⟩

def rowCount (grid : Grid) : Nat := grid.rows.length

def width (grid : Grid) : Nat := (grid.rows.map List.length).foldl max 0

def isEmpty (grid : Grid) : Bool := grid.rows.isEmpty

def row? (grid : Grid) (row : UInt32) : Option (List Cell) := grid.rows[row.toNat]?

def cell? (grid : Grid) (row : UInt32) (column : UInt16) : Option Cell := do
  (← grid.row? row)[column.toNat]?

/-- The text a cell shows, none where there is no cell. -/
def valueAt (grid : Grid) (row : UInt32) (column : UInt16) : String :=
  match grid.cell? row column with
  | some cell => cell.value
  | none => ""

/-- Puts `x` at a place of a list, with `blank` in every place the list lacked before it. -/
def putAt (blank : α) (put : α → α) : Nat → List α → List α
  | 0, [] => [put blank]
  | 0, a :: rest => put a :: rest
  | n + 1, [] => blank :: putAt blank put n []
  | n + 1, a :: rest => a :: putAt blank put n rest

/-- Replaces a cell. Missing rows and cells before it become blank. -/
def write (grid : Grid) (row : UInt32) (column : UInt16) (cell : Cell) : Grid :=
  ⟨putAt [] (putAt Cell.blank (fun _ => cell) column.toNat) row.toNat grid.rows⟩

def writeAt (grid : Grid) (address : List Char) (cell : Cell) : Except ReferenceError Grid := do
  let address ← Address.read address
  return grid.write address.row address.column cell

/-- Positions of the cells that show something, with row and column cut to their widths. -/
def occupied (grid : Grid) : List (UInt32 × UInt16) :=
  grid.rows.zipIdx.flatMap fun (cells, row) =>
    cells.zipIdx.filterMap fun (cell, column) =>
      if cell.isEmpty then none else some (.ofNat row, .ofNat column)

def enclose (bounds : (UInt32 × UInt16) × (UInt32 × UInt16)) (position : UInt32 × UInt16) :
    (UInt32 × UInt16) × (UInt32 × UInt16) :=
  ((min bounds.1.1 position.1, min bounds.1.2 position.2),
    (max bounds.2.1 position.1, max bounds.2.2 position.2))

def usedRange (grid : Grid) : Option Range :=
  match grid.occupied with
  | [] => none
  | position :: rest =>
    let bounds := rest.foldl enclose (position, position)
    some (.spanning (.relative bounds.1.1 bounds.1.2) (.relative bounds.2.1 bounds.2.2))

end Grid

end Spreadsheet
