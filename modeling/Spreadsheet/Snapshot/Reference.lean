import Spreadsheet.Range
import Spreadsheet.Snapshot.Record

/-! Snapshots of addresses and ranges, with the corners as they are. -/

namespace Spreadsheet

open Spreadsheet.Json

namespace Address

def fieldNames : List String := ["row", "col", "row_absolute", "col_absolute"]

def toJson (address : Address) : Json :=
  .ofFields (fieldNames.zip [
    some (.ofNat address.row.toNat),
    some (.ofNat address.column.toNat),
    some (.boolean address.rowAbsolute),
    some (.boolean address.columnAbsolute)])

def ofJson? (json : Json) : Option Address := do
  match ← json.fields? fieldNames with
  | [row, column, rowAbsolute, columnAbsolute] =>
    return {
      row := .ofNat (← required (below? UInt32.size) row)
      column := .ofNat (← required (below? UInt16.size) column)
      rowAbsolute := ← withDefault false boolean? rowAbsolute
      columnAbsolute := ← withDefault false boolean? columnAbsolute }
  | _ => none

end Address

namespace Range

def fieldNames : List String := ["start", "end"]

def toJson (range : Range) : Json :=
  .ofFields (fieldNames.zip [some range.first.toJson, some range.last.toJson])

def ofJson? (json : Json) : Option Range := do
  match ← json.fields? fieldNames with
  | [first, last] => return ⟨← required Address.ofJson? first, ← required Address.ofJson? last⟩
  | _ => none

end Range

end Spreadsheet
