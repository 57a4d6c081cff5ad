import Spreadsheet.Decimal.Spelling
import Spreadsheet.Text.Quoted

namespace Spreadsheet

open Spreadsheet.Text

inductive Value
  | number (n : Float)
  | text (s : String)
  | boolean (b : Bool)
  | array (rows : List (List Value))
  | empty

namespace Value

def isArray : Value → Bool
  | .array _ => true
  | _ => false

def isEmpty : Value → Bool
  | .empty => true
  | _ => false

def describe : Value → List Char
  | .number n => "Number(".toList ++ Decimal.spell .tagged n ++ [')']
  | .text s => "String(".toList ++ quoted s.toList ++ [')']
  | .boolean b => "Boolean(".toList ++ (toString b).toList ++ [')']
  | .array _ => "Array".toList
  | .empty => "Empty".toList

end Value

end Spreadsheet
