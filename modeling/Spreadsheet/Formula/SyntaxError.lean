import Spreadsheet.Formula.Token
import Spreadsheet.Address

namespace Spreadsheet.Formula

inductive SyntaxError
  | empty
  | unreadable (fault : LexicalFault)
  /-- An operand was wanted. -/
  | unexpected (found : Option Token)
  /-- The formula was complete. -/
  | trailing (found : Token)
  | expected (wanted : Mark) (found : Option Token)
  | tooDeep (limit : Nat)
  | tooManyOperators (limit : Nat)
  /-- A colon stands between other things than two cells. -/
  | notBetweenCells
  | badReference (spelling : String) (cause : ReferenceError)
  | reference (cause : ReferenceError)
  deriving DecidableEq

def SyntaxError.message : SyntaxError → String
  | .empty => "Empty formula"
  | .unreadable fault => fault.message
  | .unexpected found => s!"Unexpected {describeNext found}"
  | .trailing found => s!"Unexpected {found.describe} after expression"
  | .expected wanted found => s!"Expected {wanted.title}, got {describeNext found}"
  | .tooDeep limit => s!"Formula nests deeper than {limit} levels"
  | .tooManyOperators limit => s!"Formula has more than {limit} operators"
  | .notBetweenCells => "Range operator ':' requires a cell reference on both sides"
  | .badReference spelling cause => s!"Invalid cell reference '{spelling}': {cause.message}"
  | .reference cause => cause.message

end Spreadsheet.Formula
