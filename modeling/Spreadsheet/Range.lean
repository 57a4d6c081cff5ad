import Spreadsheet.Address

namespace Spreadsheet

open Spreadsheet.Text

/-- Two corners and the cells between them, both included. `Range.spanning` puts the upper left
corner first. -/
structure Range where
  first : Address
  last : Address
  deriving DecidableEq, Repr

namespace Range

/-- The rectangle with two given opposite corners. A mark stays with its row or column. -/
def spanning (a b : Address) : Range :=
  let (top, bottom) := if a.row ≤ b.row then (a, b) else (b, a)
  let (left, right) := if a.column ≤ b.column then (a, b) else (b, a)
  ⟨⟨top.row, left.column, top.rowAbsolute, left.columnAbsolute⟩,
    ⟨bottom.row, right.column, bottom.rowAbsolute, right.columnAbsolute⟩⟩

def read (s : List Char) : Except ReferenceError Range := do
  let text := trim s
  match text.dropWhile (· != ':') with
  | [] =>
    let address ← Address.read text
    return spanning address address
  | _ :: second =>
    if second.contains ':' then .error (.notARange (.ofList text))
    else return spanning (← Address.read (text.takeWhile (· != ':'))) (← Address.read second)

/-- A rectangle with equal corners is printed as one address. -/
def print (range : Range) : List Char :=
  if range.first = range.last then range.first.print
  else range.first.print ++ ':' :: range.last.print

instance : ToString Range := ⟨fun range => .ofList range.print⟩

def rowCount (range : Range) : UInt32 := range.last.row - range.first.row + 1

def columnCount (range : Range) : UInt16 := range.last.column - range.first.column + 1

def cellCount (range : Range) : UInt64 :=
  range.rowCount.toUInt64 * range.columnCount.toUInt64

def rows (range : Range) : List UInt32 :=
  (List.range' range.first.row.toNat (range.last.row.toNat + 1 - range.first.row.toNat)).map
    UInt32.ofNat

def columns (range : Range) : List UInt16 :=
  (List.range' range.first.column.toNat
    (range.last.column.toNat + 1 - range.first.column.toNat)).map UInt16.ofNat

def cells (range : Range) : List Address :=
  range.rows.flatMap fun row => range.columns.map fun column => .relative row column

/-- The first `n` of the cells. As many rows and columns hold them, so no more are listed. -/
def firstCells (range : Range) (n : Nat) : List Address :=
  ((range.rows.take n).flatMap fun row =>
    (range.columns.take n).map fun column => .relative row column).take n

end Range

end Spreadsheet
