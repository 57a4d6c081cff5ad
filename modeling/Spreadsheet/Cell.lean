namespace Spreadsheet

inductive HorizontalAlignment
  | left
  | center
  | right
  deriving DecidableEq, Repr

inductive VerticalAlignment
  | top
  | middle
  | bottom
  deriving DecidableEq, Repr

/-- A partial style; what is not set is inherited. -/
structure CellFormat where
  bold : Option Bool
  italic : Option Bool
  underline : Option Bool
  textColor : Option String
  backgroundColor : Option String
  fontFamily : Option String
  /-- In points. -/
  fontSize : Option Float32
  textAlign : Option HorizontalAlignment
  verticalAlign : Option VerticalAlignment
  deriving DecidableEq

namespace CellFormat

def empty : CellFormat := ⟨none, none, none, none, none, none, none, none, none⟩

def isEmpty (format : CellFormat) : Bool := format == empty

end CellFormat

/-- One entry of a grid. For a computed cell the value is the last result and the formula the text
it came from. -/
structure Cell where
  value : String
  formula : Option String
  format : Option CellFormat
  deriving DecidableEq

namespace Cell

def plain (value : String) : Cell := ⟨value, none, none⟩

def blank : Cell := plain ""

def computed (value formula : String) : Cell := ⟨value, some formula, none⟩

def isEmpty (cell : Cell) : Bool := cell.value.isEmpty

def isFormula (cell : Cell) : Bool := cell.formula.isSome

end Cell

end Spreadsheet
