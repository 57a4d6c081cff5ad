import Spreadsheet.Builtin.Argument

/-! Functions of all entries of their arguments, however these are grouped. -/

namespace Spreadsheet.Aggregate

/-- Entries that are no numbers do not count. The sum of nothing is negative zero, the neutral
element of addition. -/
def sum (args : List Value) : Except FormulaError Value :=
  Value.finite ((numericEntries args).foldl (· + ·) (-0.0))

def average (args : List Value) : Except FormulaError Value :=
  let numbers := numericEntries args
  if numbers.isEmpty then .error .divisionByZero
  else Value.finite (numbers.foldl (· + ·) 0 / Value.ofCount numbers.length)

def count (args : List Value) : Except FormulaError Value :=
  .ok (.number (Value.ofCount (numericEntries args).length))

def countFilled (args : List Value) : Except FormulaError Value :=
  .ok (.number (Value.ofCount ((entriesOf args).filter (!·.isEmpty)).length))

/-- The greater of two numbers; one that is no number gives way. -/
def greater (a b : Float) : Float := if a.isNaN || a < b then b else a

/-- The less of two numbers; one that is no number gives way. -/
def less (a b : Float) : Float := if a.isNaN || b < a then b else a

/-- Combines the numbers from the first on; without any the result is empty. -/
def reduce (combine : Float → Float → Float) (args : List Value) : Except FormulaError Value :=
  match numericEntries args with
  | [] => .ok .empty
  | first :: others => .ok (.number (others.foldl combine first))

def max (args : List Value) : Except FormulaError Value := reduce greater args

def min (args : List Value) : Except FormulaError Value := reduce less args

def concatenate (args : List Value) : Except FormulaError Value := do
  let texts ← (entriesOf args).mapM Value.toText
  return .text (String.join texts)

/-- Truth values of an argument. In an array only numbers and truth values count; text on its own
must be TRUE or FALSE. -/
def truthValues (function : Strict) : Value → Except FormulaError (List Bool)
  | .array rows => .ok <| rows.flatten.filterMap fun
    | .number n => some (n != 0)
    | .boolean b => some b
    | _ => none
  | .empty => .ok []
  | .number n => .ok [n != 0]
  | .boolean b => .ok [b]
  | .text s =>
    match Value.truthWord? s with
    | some b => .ok [b]
    | none => .error (.type (.notLogical function.name s))

def allTruthValues (function : Strict) (args : List Value) : Except FormulaError (List Bool) := do
  let values := (← args.mapM (truthValues function)).flatten
  if values.isEmpty then throw (.type (.noLogicalValue function.name))
  return values

def and (args : List Value) : Except FormulaError Value :=
  return .boolean ((← allTruthValues .and args).all id)

def or (args : List Value) : Except FormulaError Value :=
  return .boolean ((← allTruthValues .or args).any id)

end Spreadsheet.Aggregate
