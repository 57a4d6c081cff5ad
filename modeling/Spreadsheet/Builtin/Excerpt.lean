import Spreadsheet.Builtin.Argument
import Spreadsheet.Text.Case

/-! Parts and forms of a text. Lengths and places count characters. -/

namespace Spreadsheet.Excerpt

open Spreadsheet.Text

def takeLeft (s : List Char) (n : Nat) : List Char := s.take n

def takeRight (s : List Char) (n : Nat) : List Char := s.drop (s.length - n)

/-- The `n` characters from a place on, counted from one. -/
def takeMiddle (s : List Char) (start n : Nat) : List Char := (s.drop (start - 1)).take n

/-- Words with single spaces between them; only the space character separates them. -/
def squeeze (s : List Char) : List Char :=
  [' '].intercalate ((s.splitOn ' ').filter (!·.isEmpty))

def textArgument (function : Strict) (args : List Value) : Except FormulaError (List Char) :=
  return (← (← argument function args 0).toText).toList

/-- A number of characters, one if it is not given. -/
def countArgument (function : Strict) (args : List Value) (index : Nat) :
    Except FormulaError Nat :=
  match args[index]? with
  | none => .ok 1
  | some value => do
    let n ← value.toInteger
    if n < 0 then throw (.type (.negativeCount function.name n))
    return n.toNat

def ofChars (s : List Char) : Value := .text (.ofList s)

def left (args : List Value) : Except FormulaError Value := do
  let s ← textArgument .left args
  let n ← countArgument .left args 1
  return ofChars (takeLeft s n)

def right (args : List Value) : Except FormulaError Value := do
  let s ← textArgument .right args
  let n ← countArgument .right args 1
  return ofChars (takeRight s n)

def mid (args : List Value) : Except FormulaError Value := do
  let s ← textArgument .mid args
  let start ← (← argument .mid args 1).toInteger
  if start < 1 then throw (.invalidReference (.startBelowOne start))
  let n ← countArgument .mid args 2
  return ofChars (takeMiddle s start.toNat n)

def len (args : List Value) : Except FormulaError Value :=
  return .number (Value.ofCount (← textArgument .len args).length)

def upper (args : List Value) : Except FormulaError Value :=
  return ofChars (Text.upper (← textArgument .upper args))

def lower (args : List Value) : Except FormulaError Value :=
  return ofChars (Text.lower (← textArgument .lower args))

def trim (args : List Value) : Except FormulaError Value :=
  return ofChars (squeeze (← textArgument .trim args))

end Spreadsheet.Excerpt
