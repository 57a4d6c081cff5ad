import Spreadsheet.Binary.Integral
import Spreadsheet.Decimal.Numeral
import Spreadsheet.FormulaError

namespace Spreadsheet.Value

open Spreadsheet.Text

/-- The value of a cell that shows `s`: a number if the text is one, and empty if there is none. -/
def ofCellText (s : String) : Value :=
  if s.isEmpty then .empty
  else match Decimal.readNumber? s.toList with
  | some n => .number n
  | none => .text s

def ofBool (b : Bool) : Float := if b then 1 else 0

/-- A length as a number, held within 64 bits. -/
def ofCount (n : Nat) : Float := (UInt64.ofNat (min n 18446744073709551615)).toFloat

def number? : Value → Option Float
  | .number n => some n
  | .boolean b => some (ofBool b)
  | .text s => Decimal.readNumber? s.toList
  | .empty => some 0
  | .array _ => none

def toNumber (value : Value) : Except FormulaError Float :=
  match value, value.number? with
  | _, some n => .ok n
  | .text s, none => .error (.type (.notANumber s))
  | _, none => .error (.type .arrayAsScalar)

def truthWord? (s : String) : Option Bool :=
  if sameAscii s.toList ['T', 'R', 'U', 'E'] then some true
  else if sameAscii s.toList ['F', 'A', 'L', 'S', 'E'] then some false
  else none

/-- Numbers other than zero are true, and so is text other than FALSE. -/
def toBool : Value → Except FormulaError Bool
  | .boolean b => .ok b
  | .number n => .ok (n != 0)
  | .text s => .ok ((truthWord? s).getD !s.isEmpty)
  | .empty => .ok false
  | .array _ => .error (.type .arrayAsScalar)

def toText : Value → Except FormulaError String
  | .number n =>
    if n.isFinite then .ok (.ofList (Decimal.display n))
    else .error (.numeric (.notDisplayable n))
  | .text s => .ok s
  | .boolean b => .ok (if b then "true" else "false")
  | .empty => .ok ""
  | .array _ => .error (.type .arrayAsScalar)

def scalar (value : Value) : Except FormulaError Value :=
  if value.isArray then .error (.type .arrayAsScalar) else .ok value

def finite (n : Float) : Except FormulaError Value :=
  if n.isFinite then .ok (.number n) else .error (.numeric (.notFinite n))

/-- A number without its fraction, held within 64 bits. -/
def toInteger (value : Value) : Except FormulaError Int :=
  return Binary.truncate (← value.toNumber)

end Spreadsheet.Value
