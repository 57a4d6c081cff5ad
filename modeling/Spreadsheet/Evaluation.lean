import Spreadsheet.Builtin.Apply
import Spreadsheet.Formula.Expr
import Spreadsheet.Meter

namespace Spreadsheet

open Spreadsheet.Formula

/-- The value of an operator between two scalars. The left operand is converted first. -/
def Formula.BinaryOp.apply (op : BinaryOp) (a b : Value) : Except FormulaError Value := do
  match op with
  | .add => Value.finite ((← a.toNumber) + (← b.toNumber))
  | .subtract => Value.finite ((← a.toNumber) - (← b.toNumber))
  | .multiply => Value.finite ((← a.toNumber) * (← b.toNumber))
  | .divide =>
    let x ← a.toNumber
    let y ← b.toNumber
    if y == 0 then throw .divisionByZero
    Value.finite (x / y)
  | .power =>
    let x ← a.toNumber
    let y ← b.toNumber
    if x == 0 && y < 0 then throw .divisionByZero
    Value.finite (x.pow y)
  | .concat => return .text ((← a.toText) ++ (← b.toText))
  | .equal => return .boolean (Value.compare a b == .eq)
  | .notEqual => return .boolean (Value.compare a b != .eq)
  | .lessThan => return .boolean (Value.compare a b == .lt)
  | .lessEqual => return .boolean (Value.compare a b != .gt)
  | .greaterThan => return .boolean (Value.compare a b == .gt)
  | .greaterEqual => return .boolean (Value.compare a b != .lt)

def Formula.UnaryOp.apply (op : UnaryOp) (value : Value) : Except FormulaError Value := do
  let x ← value.toNumber
  match op with
  | .negate => return .number (-x)
  | .percent => return .number (x / 100)

def Selective.missing (function : Selective) (actual : Nat) : FormulaError :=
  .argumentCount function.name (.atLeast 2) actual

namespace Source

variable {σ : Type}

mutual

def evaluate (source : Source σ) : Expr → Metered σ Value
  | .number n => return .number n
  | .text s => return .text s
  | .boolean b => return .boolean b
  | .cell address => return source.cell address
  | .range range => source.range range
  | .name spelling => throw (.unknownName spelling)
  | .binary op left right => do
    let a ← (← evaluate source left).scalar
    let b ← (← evaluate source right).scalar
    op.apply a b
  | .unary op operand => do op.apply (← evaluate source operand)
  | .call name arguments =>
    match Builtin.ofName? name with
    | none => throw (.unknownFunction name)
    | some function => do
      function.arity.check function.name arguments.length
      match function with
      | .strict f => do f.apply (← evaluateAll source arguments)
      | .selective f => select source f arguments

def evaluateAll (source : Source σ) : List Expr → Metered σ (List Value)
  | [] => return []
  | first :: others => do
    let value ← evaluate source first
    return value :: (← evaluateAll source others)

def select (source : Source σ) : Selective → List Expr → Metered σ Value
  | .cond, [] => throw (Selective.missing .cond 0)
  | .cond, [condition] => do
    if ← (← evaluate source condition).toBool then throw (Selective.missing .cond 1)
    else return .boolean false
  | .cond, [condition, yes] => do
    if ← (← evaluate source condition).toBool then evaluate source yes
    else return .boolean false
  | .cond, condition :: yes :: no :: _ => do
    if ← (← evaluate source condition).toBool then evaluate source yes
    else evaluate source no
  | .ifError, [value, fallback] =>
    tryCatch (evaluate source value) fun _ => evaluate source fallback
  | .ifError, arguments => throw (Selective.missing .ifError arguments.length)

end

end Source

def evaluate (grid : Grid) (expr : Expr) : Metered Meter Value := grid.source.evaluate expr

def select (grid : Grid) (function : Selective) (arguments : List Expr) : Metered Meter Value :=
  grid.source.select function arguments

end Spreadsheet
