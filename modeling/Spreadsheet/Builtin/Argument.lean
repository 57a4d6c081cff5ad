import Spreadsheet.Builtin
import Spreadsheet.Value.Convert

namespace Spreadsheet

def argument (function : Strict) (args : List Value) (index : Nat) : Except FormulaError Value :=
  match args[index]? with
  | some value => .ok value
  | none => .error (.argumentCount function.name (.atLeast (index + 1)) args.length)

namespace Value

def entries : Value → List Value
  | .array rows => rows.flatten
  | value => [value]

/-- The number an entry counts as. Empty entries and other text count as none. -/
def numericEntry? : Value → Option Float
  | .empty => none
  | .array _ => none
  | value => value.number?

end Value

def entriesOf (args : List Value) : List Value := args.flatMap Value.entries

def numericEntries (args : List Value) : List Float :=
  (entriesOf args).filterMap Value.numericEntry?

end Spreadsheet
