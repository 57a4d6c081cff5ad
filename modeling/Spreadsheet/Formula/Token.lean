import Spreadsheet.Decimal.Spelling

namespace Spreadsheet.Formula

inductive Mark
  | plus
  | minus
  | star
  | slash
  | caret
  | percent
  | ampersand
  | equal
  | notEqual
  | lessThan
  | lessEqual
  | greaterThan
  | greaterEqual
  | colon
  | comma
  | leftParen
  | rightParen
  deriving DecidableEq, Repr

def Mark.title : Mark → String
  | .plus => "Plus"
  | .minus => "Minus"
  | .star => "Star"
  | .slash => "Slash"
  | .caret => "Caret"
  | .percent => "Percent"
  | .ampersand => "Ampersand"
  | .equal => "Equal"
  | .notEqual => "NotEqual"
  | .lessThan => "LessThan"
  | .lessEqual => "LessEqual"
  | .greaterThan => "GreaterThan"
  | .greaterEqual => "GreaterEqual"
  | .colon => "Colon"
  | .comma => "Comma"
  | .leftParen => "LeftParen"
  | .rightParen => "RightParen"

inductive LexicalFault
  | unexpectedCharacter (c : Char)
  | unterminatedText
  /-- A numeral too large for any number. -/
  | invalidNumber (spelling : String)
  deriving DecidableEq, Repr

def LexicalFault.message : LexicalFault → String
  | .unexpectedCharacter c => s!"unexpected character '{c}'"
  | .unterminatedText => "unterminated string literal"
  | .invalidNumber spelling => s!"invalid number '{spelling}'"

inductive Token
  | number (n : Float)
  | text (s : String)
  | boolean (b : Bool)
  /-- The name of a function, or one that stands alone. -/
  | name (spelling : String)
  /-- A word shaped like a cell address. -/
  | reference (spelling : String)
  | mark (m : Mark)
  | invalid (fault : LexicalFault)
  deriving DecidableEq

def Token.describe : Token → String
  | .number n => s!"number {String.ofList (Decimal.spell .plain n)}"
  | .text s => s!"string \"{s}\""
  | .boolean b => s!"boolean {b}"
  | .name spelling => s!"name '{spelling}'"
  | .reference spelling => s!"reference '{spelling}'"
  | .mark m => m.title
  | .invalid fault => fault.message

def describeNext : Option Token → String
  | some token => token.describe
  | none => "end of formula"

end Spreadsheet.Formula
