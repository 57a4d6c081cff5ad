import Spreadsheet.Text.Blank
import Spreadsheet.Text.Case

namespace Spreadsheet

open Spreadsheet.Text

inductive ErrorTag
  | generic
  | ref
  | div0
  | value
  | na
  | name
  | num
  deriving DecidableEq, Repr

namespace ErrorTag

def all : List ErrorTag := [.generic, .ref, .div0, .value, .na, .name, .num]

def label : ErrorTag → String
  | .generic => "#ERROR!"
  | .ref => "#REF!"
  | .div0 => "#DIV/0!"
  | .value => "#VALUE!"
  | .na => "#N/A"
  | .name => "#NAME?"
  | .num => "#NUM!"

def word : ErrorTag → String
  | .generic => "Generic"
  | .ref => "Ref"
  | .div0 => "Div0"
  | .value => "Value"
  | .na => "Na"
  | .name => "Name"
  | .num => "Num"

def ofLabel? (s : List Char) : Option ErrorTag :=
  let label := String.ofList (upper (trim s))
  all.find? (·.label == label)

def ofWord? (word : String) : Option ErrorTag := all.find? (·.word == word)

end ErrorTag

end Spreadsheet
