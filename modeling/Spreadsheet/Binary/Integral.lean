import Spreadsheet.Binary.Format

namespace Spreadsheet.Binary

def signed (negative : Bool) (magnitude : Nat) : Int :=
  if negative then -magnitude else magnitude

/-- A number of integral value; zero keeps the sign. -/
def integral (negative : Bool) (magnitude : Nat) : Float :=
  ofWord (double.ofScaled negative magnitude 0)

def floor (x : Float) : Float :=
  match datum x with
  | .finite negative mantissa exponent =>
    let unit := twoTo (-exponent).toNat
    if 0 ≤ exponent then x
    else if negative then integral true ((mantissa + unit - 1) / unit)
    else integral false (mantissa / unit)
  | _ => x

def roundHalfAway (x : Float) : Float :=
  match datum x with
  | .finite negative mantissa exponent =>
    let unit := twoTo (-exponent).toNat
    if 0 ≤ exponent then x
    else integral negative ((2 * mantissa + unit) / (2 * unit))
  | _ => x

/-- The integer next to `x` towards zero, held within 64 bits; none stands for zero. -/
def truncate (x : Float) : Int :=
  let low : Int := -9223372036854775808
  let high : Int := 9223372036854775807
  match datum x with
  | .finite negative mantissa exponent =>
    max low (min high
      (signed negative (mantissa * twoTo exponent.toNat / twoTo (-exponent).toNat)))
  | .infinite negative => if negative then low else high
  | .notANumber => 0

def nextUp (x : Float) : Float :=
  match datum x with
  | .finite _ 0 _ => ofWord 1
  | .notANumber | .infinite false => x
  | _ => .ofBits (x.toBits + 1)

end Spreadsheet.Binary
