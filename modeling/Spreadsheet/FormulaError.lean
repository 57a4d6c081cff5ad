import Spreadsheet.ErrorTag
import Spreadsheet.Formula.SyntaxError
import Spreadsheet.Range
import Spreadsheet.Value

namespace Spreadsheet

inductive ArgumentBound
  | exactly (count : Nat)
  | atLeast (count : Nat)
  | atMost (count : Nat)
  deriving DecidableEq, Repr

def ArgumentBound.message : ArgumentBound → String
  | .exactly count => s!"exactly {count}"
  | .atLeast count => s!"at least {count}"
  | .atMost count => s!"at most {count}"

inductive ReferenceFault
  | rangeTooLarge (range : Range) (cells allowed : Nat)
  | indexOutside (function : String) (index : Int) (size : Nat)
  | startBelowOne (start : Int)
  deriving DecidableEq, Repr

def ReferenceFault.message : ReferenceFault → String
  | .rangeTooLarge range cells allowed =>
    s!"range {range} covers {cells} cells, more than the {allowed} allowed"
  | .indexOutside function index size => s!"{function} index {index} is outside a table of {size}"
  | .startBelowOne start => s!"MID start must be at least 1, got {start}"

inductive TypeFault
  | notANumber (text : String)
  | arrayAsScalar
  | notLogical (function text : String)
  | noLogicalValue (function : String)
  | noTable (function : String)
  | indexBelowOne (function : String) (index : Int)
  | negativeCount (function : String) (count : Int)
  deriving DecidableEq, Repr

def TypeFault.message : TypeFault → String
  | .notANumber text => s!"cannot convert \"{text}\" to a number"
  | .arrayAsScalar => "a range cannot be used as a single value"
  | .notLogical function text => s!"{function} expects logical values, got \"{text}\""
  | .noLogicalValue function => s!"{function} found no logical values"
  | .noTable function => s!"{function} expects a range as its table"
  | .indexBelowOne function index => s!"{function} index must be at least 1, got {index}"
  | .negativeCount function count =>
    s!"{function} character count cannot be negative, got {count}"

inductive NumericFault
  | notFinite (n : Float)
  | notDisplayable (n : Float)
  deriving DecidableEq

def NumericFault.message : NumericFault → String
  | .notFinite n => s!"{String.ofList (Decimal.spell .plain n)} is not a finite number"
  | .notDisplayable n => s!"{String.ofList (Decimal.spell .plain n)} cannot be displayed"

inductive FormulaError
  | parse (cause : Formula.SyntaxError)
  | argumentCount (function : String) (expected : ArgumentBound) (actual : Nat)
  | invalidReference (cause : ReferenceFault)
  | type (cause : TypeFault)
  | divisionByZero
  | notAvailable (function : String) (value : Value)
  | unknownFunction (name : String)
  | unknownName (name : String)
  | numeric (cause : NumericFault)

namespace FormulaError

def message : FormulaError → String
  | .parse cause => s!"Parse error: {cause.message}"
  | .argumentCount function expected actual =>
    s!"Wrong number of arguments for {function}: expected {expected.message}, got {actual}"
  | .invalidReference cause => s!"Invalid reference: {cause.message}"
  | .type cause => s!"Type mismatch: {cause.message}"
  | .divisionByZero => "Division by zero"
  | .notAvailable function value =>
    s!"Value not available: {function} found no match for {String.ofList value.describe}"
  | .unknownFunction name => s!"Unknown function: {name}"
  | .unknownName name => s!"Unknown name: {name}"
  | .numeric cause => s!"Numeric error: {cause.message}"

def tag : FormulaError → ErrorTag
  | .parse _ => .generic
  | .argumentCount .. => .generic
  | .invalidReference _ => .ref
  | .type _ => .value
  | .divisionByZero => .div0
  | .notAvailable .. => .na
  | .unknownFunction _ => .name
  | .unknownName _ => .name
  | .numeric _ => .num

def ofReference (cause : ReferenceError) : FormulaError := .parse (.reference cause)

end FormulaError

end Spreadsheet
