import Spreadsheet.Decimal.Numeral
import Spreadsheet.Decimal.Spelling
import Spreadsheet.Json

namespace Spreadsheet.Json

open Spreadsheet.Text
open Spreadsheet.Decimal

/-- Digits enter the significand as long as it fits 64 bits; the others are left. -/
def significand (value : Nat) : List Char → Nat × List Char
  | [] => (value, [])
  | c :: rest =>
    let next := 10 * value + digitValue c
    if next < UInt64.size then significand next rest else (value, c :: rest)

def powerOfTen (n : Nat) : Float := Binary.ofWord (Binary.double.ofRatio (tenTo n) 1)

/-- Scales by a power of ten in one rounded step, or in several if the power is too small for
that. A result that is too large has no value. -/
def scaleByTen (x : Float) (exponent : Int) : Option Float :=
  if exponent.natAbs ≤ 308 then
    if 0 ≤ exponent then (some (x * powerOfTen exponent.natAbs)).filter Float.isFinite
    else some (x / powerOfTen exponent.natAbs)
  else if x == 0 then some x
  else if 0 ≤ exponent then none
  else scaleByTen (x / powerOfTen 308) (exponent + 308)
termination_by exponent.natAbs
decreasing_by omega

/-- Integers of 64 bits are rounded once, other numbers first to double precision. -/
def readSingle (negative : Bool) (numeral : Numeral) : Option Float32 :=
  let (whole, dropped) := significand 0 numeral.digits
  let isInteger := numeral.fraction.isNone && numeral.power.isNone && dropped.isEmpty
  if isInteger && (!negative || (0 < whole && 2 * whole ≤ UInt64.size)) then
    some (Binary.ofWord32 (Binary.single.ofScaled negative whole 0))
  else do
    let x ← scaleByTen (Binary.ofWord (Binary.double.ofRatio whole 1))
      (numeral.scale + dropped.length)
    return Binary.narrow (if negative then -x else x)

def single? : Json → Option Float32
  | .number ('-' :: spelling) => readSingle true (Numeral.scan spelling).1
  | .number spelling => readSingle false (Numeral.scan spelling).1
  | _ => none

/-- The shortest spelling; only finite numbers have one. -/
def ofSingle (x : Float32) : Json :=
  if x.isFinite then .number (spell32 .snapshot x) else .null

end Spreadsheet.Json
