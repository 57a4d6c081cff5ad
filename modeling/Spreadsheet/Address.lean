import Spreadsheet.Text.Ascii
import Spreadsheet.Text.Blank

namespace Spreadsheet

open Spreadsheet.Text

inductive ReferenceError
  | notAnAddress (text : String)
  | rowZero (text : String)
  | noColumnLetters
  | notAColumnLetter (letter : Char)
  | rowOutOfBounds (row : Nat)
  /-- `reached` is the value of the letters before the one that went too far. -/
  | columnOutOfBounds (reached : Nat)
  | notARange (text : String)
  deriving DecidableEq, Repr

def rowLimit : Nat := 1048576

def columnLimit : Nat := 16384

def ReferenceError.message : ReferenceError → String
  | .notAnAddress text => s!"Invalid cell address: '{text}' is not an A1 address"
  | .rowZero text => s!"Invalid cell address: row 0 in '{text}'"
  | .noColumnLetters => "Invalid cell address: empty column letters"
  | .notAColumnLetter letter => s!"Invalid cell address: invalid column letter '{letter}'"
  | .rowOutOfBounds row => s!"Row index {row} out of bounds (max: {rowLimit - 1})"
  | .columnOutOfBounds reached =>
    s!"Column index {reached} out of bounds (max: {columnLimit - 1})"
  | .notARange text => s!"Invalid cell range: {text}"

/-- Row and column of a cell, counted from zero, and whether each was written with a dollar sign.
The marks are kept for printing only. -/
structure Address where
  row : UInt32
  column : UInt16
  rowAbsolute : Bool
  columnAbsolute : Bool
  deriving DecidableEq, Repr

namespace Address

def relative (row : UInt32) (column : UInt16) : Address := ⟨row, column, false, false⟩

def letter (n : Nat) : Char := Char.ofNat ('A'.toNat + n)

/-- Value of a letter, counted from one. -/
def letterValue (c : Char) : Nat := c.toUpper.toNat - 'A'.toNat + 1

/-- Bijective base 26: no letter stands for zero, and `AA` follows `Z`. -/
def bijectiveLetters (n : Nat) : List Char :=
  if n = 0 then [] else bijectiveLetters ((n - 1) / 26) ++ [letter ((n - 1) % 26)]
termination_by n
decreasing_by omega

def columnLetters (column : UInt16) : List Char := bijectiveLetters (column.toNat + 1)

/-- Value of column letters after those that gave `reached`. -/
def columnValue (reached : Nat) : List Char → Except ReferenceError Nat
  | [] => .ok reached
  | c :: rest =>
    if c.isAlpha then
      let next := reached * 26 + letterValue c
      if next ≤ columnLimit then columnValue next rest
      else .error (.columnOutOfBounds reached)
    else .error (.notAColumnLetter c)

def columnOfLetters (letters : List Char) : Except ReferenceError UInt16 :=
  if letters.isEmpty then .error .noColumnLetters
  else do
    let value ← columnValue 0 letters
    return .ofNat (value - 1)

structure Shape where
  columnMark : Bool
  letters : List Char
  rowMark : Bool
  digits : List Char
  deriving DecidableEq, Repr

def takeMark : List Char → Bool × List Char
  | '$' :: rest => (true, rest)
  | rest => (false, rest)

/-- An optional mark, letters, an optional mark, digits, and nothing else. -/
def shape? (s : List Char) : Option Shape :=
  let (columnMark, s) := takeMark s
  let letters := s.takeWhile Char.isAlpha
  let (rowMark, s) := takeMark (s.dropWhile Char.isAlpha)
  if letters.isEmpty || s.isEmpty || !s.all Char.isDigit then none
  else some ⟨columnMark, letters, rowMark, s⟩

/-- Checks the column before the row. -/
def ofShape (text : List Char) (shape : Shape) : Except ReferenceError Address := do
  let column ← columnOfLetters shape.letters
  let number := decimalValue shape.digits
  if number = 0 then .error (.rowZero (.ofList text))
  else if rowLimit < number then .error (.rowOutOfBounds (min (number - 1) (UInt32.size - 1)))
  else return ⟨.ofNat (number - 1), column, shape.rowMark, shape.columnMark⟩

def read (s : List Char) : Except ReferenceError Address :=
  let text := trim s
  match shape? text with
  | none => .error (.notAnAddress (.ofList text))
  | some shape => ofShape text shape

def mark (absolute : Bool) : List Char := if absolute then ['$'] else []

def print (address : Address) : List Char :=
  mark address.columnAbsolute ++ columnLetters address.column ++
    mark address.rowAbsolute ++ decimalDigits (address.row.toNat + 1)

instance : ToString Address := ⟨fun address => .ofList address.print⟩

end Address

end Spreadsheet
