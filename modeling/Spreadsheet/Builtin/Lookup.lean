import Spreadsheet.Builtin.Argument
import Spreadsheet.Value.Order

namespace Spreadsheet.Lookup

open Spreadsheet.Text

def spells (s : String) (n : Float) : Bool :=
  match Decimal.readNumber? s.toList with
  | some m => m == n
  | none => false

/-- Whether a key answers to a value. Text answers to the number it spells. -/
def sameKey : Value → Value → Bool
  | .number a, .number b => a == b
  | .boolean a, .boolean b => a == b
  | .text s, .text t => lower s.toList == lower t.toList
  | .number n, .text s => spells s n
  | .text s, .number n => spells s n
  | .empty, .empty => true
  | .empty, .text s => s.isEmpty
  | .text s, .empty => s.isEmpty
  | _, _ => false

def comparable : Value → Value → Bool
  | .number _, .number _ => true
  | .text _, .text _ => true
  | .boolean _, .boolean _ => true
  | _, _ => false

def findExact (keys : List Value) (value : Value) : Option Nat :=
  keys.findIdx? (sameKey · value)

/-- Place of the last comparable key before the first that is greater than `value`, where `index`
is the place of the first key and `found` what came before. -/
def findApproximateFrom (value : Value) : Nat → Option Nat → List Value → Option Nat
  | _, found, [] => found
  | index, found, key :: keys =>
    if comparable key value then
      if Value.compare key value = .gt then found
      else findApproximateFrom value (index + 1) (some index) keys
    else findApproximateFrom value (index + 1) found keys

def findApproximate (keys : List Value) (value : Value) : Option Nat :=
  findApproximateFrom value 0 none keys

def find (approximate : Bool) (keys : List Value) (value : Value) : Option Nat :=
  if approximate then findApproximate keys value else findExact keys value

inductive Direction
  | down
  | across
  deriving DecidableEq, Repr

def Direction.function : Direction → Strict
  | .down => .vlookup
  | .across => .hlookup

/-- A value missing from a row is empty. -/
def entry (row : List Value) (index : Nat) : Value := row[index]?.getD .empty

def firstRow (rows : List (List Value)) : List Value := rows.head?.getD []

def keys (direction : Direction) (rows : List (List Value)) : List Value :=
  match direction with
  | .down => rows.map fun row => entry row 0
  | .across => firstRow rows

/-- Number of lines that results can come from. -/
def depth (direction : Direction) (rows : List (List Value)) : Nat :=
  match direction with
  | .down => (firstRow rows).length
  | .across => rows.length

def result (direction : Direction) (rows : List (List Value)) (key line : Nat) : Value :=
  match direction with
  | .down => entry (rows[key]?.getD []) line
  | .across => entry (rows[line]?.getD []) key

def tableArgument (function : Strict) (args : List Value) :
    Except FormulaError (List (List Value)) := do
  match ← argument function args 1 with
  | .array rows => return rows
  | _ => throw (.type (.noTable function.name))

/-- Keys are matched exactly unless the last argument says otherwise. -/
def approximateArgument (args : List Value) : Except FormulaError Bool :=
  match args[3]? with
  | some flag => flag.toBool
  | none => .ok false

def lineAt (function : Strict) (index : Int) (size : Nat) : Except FormulaError Nat :=
  if index < 1 then .error (.type (.indexBelowOne function.name index))
  else if size ≤ (index - 1).toNat then
    .error (.invalidReference (.indexOutside function.name index size))
  else .ok (index - 1).toNat

def lookup (direction : Direction) (args : List Value) : Except FormulaError Value := do
  let function := direction.function
  let value ← (← argument function args 0).scalar
  let rows ← tableArgument function args
  let index ← (← argument function args 2).toInteger
  let approximate ← approximateArgument args
  let line ← lineAt function index (depth direction rows)
  match find approximate (keys direction rows) value with
  | some key => return result direction rows key line
  | none => throw (.notAvailable function.name value)

end Spreadsheet.Lookup
