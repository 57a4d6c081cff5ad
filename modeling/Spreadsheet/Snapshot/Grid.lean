import Spreadsheet.Grid
import Spreadsheet.Snapshot.Record
import Spreadsheet.Snapshot.Single

namespace Spreadsheet

open Spreadsheet.Json

namespace HorizontalAlignment

def word : HorizontalAlignment → String
  | .left => "left"
  | .center => "center"
  | .right => "right"

def ofWord? (word : String) : Option HorizontalAlignment :=
  [left, center, right].find? (·.word == word)

end HorizontalAlignment

namespace VerticalAlignment

def word : VerticalAlignment → String
  | .top => "top"
  | .middle => "middle"
  | .bottom => "bottom"

def ofWord? (word : String) : Option VerticalAlignment :=
  [top, middle, bottom].find? (·.word == word)

end VerticalAlignment

namespace CellFormat

def fieldNames : List String := [
  "bold", "italic", "underline", "textColor", "backgroundColor", "fontFamily", "fontSize",
  "textAlign", "verticalAlign"]

def toJson (format : CellFormat) : Json :=
  .ofFields (fieldNames.zip [
    format.bold.map .boolean,
    format.italic.map .boolean,
    format.underline.map .boolean,
    format.textColor.map .ofText,
    format.backgroundColor.map .ofText,
    format.fontFamily.map .ofText,
    format.fontSize.map ofSingle,
    format.textAlign.map fun align => .ofText align.word,
    format.verticalAlign.map fun align => .ofText align.word])

def ofJson? (json : Json) : Option CellFormat := do
  match ← json.fields? fieldNames with
  | [bold, italic, underline, textColor, backgroundColor, fontFamily, fontSize, textAlign,
      verticalAlign] =>
    return {
      bold := ← optional boolean? bold
      italic := ← optional boolean? italic
      underline := ← optional boolean? underline
      textColor := ← optional text? textColor
      backgroundColor := ← optional text? backgroundColor
      fontFamily := ← optional text? fontFamily
      fontSize := ← optional single? fontSize
      textAlign := ← optional (fun json => json.case?.bind HorizontalAlignment.ofWord?) textAlign
      verticalAlign :=
        ← optional (fun json => json.case?.bind VerticalAlignment.ofWord?) verticalAlign }
  | _ => none

end CellFormat

namespace Cell

def fieldNames : List String := ["value", "formula", "format"]

def toJson (cell : Cell) : Json :=
  .ofFields (fieldNames.zip [
    some (.ofText cell.value),
    cell.formula.map .ofText,
    cell.format.map CellFormat.toJson])

def ofJson? (json : Json) : Option Cell := do
  match ← json.fields? fieldNames with
  | [value, formula, format] =>
    return {
      value := ← withDefault "" text? value
      formula := ← optional text? formula
      format := ← optional CellFormat.ofJson? format }
  | _ => none

end Cell

namespace Grid

def toJson (grid : Grid) : Json :=
  .array (grid.rows.map fun cells => .array (cells.map Cell.toJson))

def ofJson? (json : Json) : Option Grid := do
  let rows ← (← json.items?).mapM fun row => do (← row.items?).mapM Cell.ofJson?
  return ⟨rows⟩

end Grid

end Spreadsheet
