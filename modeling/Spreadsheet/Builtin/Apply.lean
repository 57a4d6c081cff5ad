import Spreadsheet.Builtin.Aggregate
import Spreadsheet.Builtin.Excerpt
import Spreadsheet.Builtin.Lookup
import Spreadsheet.Builtin.Rounding

namespace Spreadsheet

def negation (args : List Value) : Except FormulaError Value :=
  return .boolean (!(← (← argument .not args 0).toBool))

def Strict.apply : Strict → List Value → Except FormulaError Value
  | .sum => Aggregate.sum
  | .abs => Rounding.abs
  | .round => Rounding.round
  | .mod => Rounding.mod
  | .average => Aggregate.average
  | .count => Aggregate.count
  | .counta => Aggregate.countFilled
  | .max => Aggregate.max
  | .min => Aggregate.min
  | .and => Aggregate.and
  | .or => Aggregate.or
  | .not => negation
  | .vlookup => Lookup.lookup .down
  | .hlookup => Lookup.lookup .across
  | .concatenate => Aggregate.concatenate
  | .left => Excerpt.left
  | .right => Excerpt.right
  | .mid => Excerpt.mid
  | .len => Excerpt.len
  | .upper => Excerpt.upper
  | .lower => Excerpt.lower
  | .trim => Excerpt.trim

end Spreadsheet
