import Spreadsheet.Builtin.Argument

namespace Spreadsheet.Rounding

def abs (args : List Value) : Except FormulaError Value :=
  return .number (← (← argument .abs args 0).toNumber).abs

/-- Multiplies `result` by a power, squaring the base and rounding at each product. -/
def timesPower (result base : Float) (n : Nat) : Float :=
  let result := if n % 2 = 1 then result * base else result
  if n / 2 = 0 then result else timesPower result (base * base) (n / 2)
termination_by n
decreasing_by omega

def powerOfTen (n : Nat) : Float := timesPower 1 10 n

def integersFrom : Float := 4503599627370496

/-- Rounds to the nearest integer after a step of one unit in the last place away from zero, so
that a decimal half that binary cannot hold rounds as it is spelled. -/
def roundNudged (x : Float) : Float :=
  if 0 ≤ x then Binary.roundHalfAway (Binary.nextUp x)
  else -Binary.roundHalfAway (Binary.nextUp (-x))

def roundTo (x : Float) (digits : Int) : Except FormulaError Value :=
  let factor := powerOfTen digits.natAbs
  let scaled := if 0 ≤ digits then x * factor else x / factor
  if !scaled.isFinite || integersFrom ≤ scaled.abs then .ok (.number x)
  else
    let rounded := roundNudged scaled
    Value.finite (if 0 ≤ digits then rounded / factor else rounded * factor)

def round (args : List Value) : Except FormulaError Value := do
  let x ← (← argument .round args 0).toNumber
  match args[1]? with
  | some digits => roundTo x (max (-308) (min 308 (← digits.toInteger)))
  | none => roundTo x 0

def mod (args : List Value) : Except FormulaError Value := do
  let x ← (← argument .mod args 0).toNumber
  let divisor ← (← argument .mod args 1).toNumber
  if divisor == 0 then throw .divisionByZero
  Value.finite (x - divisor * Binary.floor (x / divisor))

end Spreadsheet.Rounding
