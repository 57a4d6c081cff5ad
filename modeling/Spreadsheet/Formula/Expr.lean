import Spreadsheet.Range

namespace Spreadsheet.Formula

inductive BinaryOp
  | add
  | subtract
  | multiply
  | divide
  | power
  | equal
  | notEqual
  | lessThan
  | lessEqual
  | greaterThan
  | greaterEqual
  | concat
  deriving DecidableEq, Repr

inductive UnaryOp
  | negate
  | percent
  deriving DecidableEq, Repr

inductive Expr
  | number (n : Float)
  | text (s : String)
  | boolean (b : Bool)
  | cell (address : Address)
  | range (range : Range)
  /-- A word that is neither a reference nor called. -/
  | name (spelling : String)
  | binary (op : BinaryOp) (left right : Expr)
  | unary (op : UnaryOp) (operand : Expr)
  /-- The name of the function is in upper case. -/
  | call (function : String) (arguments : List Expr)

end Spreadsheet.Formula
