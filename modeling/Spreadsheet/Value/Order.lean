import Spreadsheet.Text.Case
import Spreadsheet.Value

namespace Spreadsheet.Value

open Spreadsheet.Text

/-- Numbers in order; one that is no number equals all. -/
def compareNumbers (a b : Float) : Ordering :=
  if a < b then .lt else if b < a then .gt else .eq

/-- Text without regard to case, by code points. -/
def compareTexts (s t : String) : Ordering := compare (lower s.toList) (lower t.toList)

/-- Numbers stand before text, text before truth values, and these before arrays. -/
def rank : Value → Nat
  | .empty => 0
  | .number _ => 0
  | .text _ => 1
  | .boolean _ => 2
  | .array _ => 3

/-- What an empty value stands for beside another. -/
def emptyBeside : Value → Value
  | .text _ => .text ""
  | .boolean _ => .boolean false
  | .empty => .empty
  | _ => .number 0

def compareFilled : Value → Value → Ordering
  | .number a, .number b => compareNumbers a b
  | .text s, .text t => compareTexts s t
  | .boolean a, .boolean b => compare a b
  | a, b => compare a.rank b.rank

protected def compare : Value → Value → Ordering
  | .empty, .empty => .eq
  | .empty, b => compareFilled (emptyBeside b) b
  | a, .empty => compareFilled a (emptyBeside a)
  | a, b => compareFilled a b

end Spreadsheet.Value
