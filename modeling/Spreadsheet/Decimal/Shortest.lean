import Spreadsheet.Binary.Format

/-! The shortest decimal that reads back as a given binary number. -/

namespace Spreadsheet.Decimal

/-- A positive decimal number, `coefficient · 10 ^ exponent`. -/
structure Scientific where
  coefficient : Nat
  exponent : Int
  deriving DecidableEq, Repr

/-- Which of two decimals to take when they are equally near. -/
inductive Tie
  | up
  | even
  deriving DecidableEq, Repr

/-- The numbers that round to one value, all over the denominator `den`; the ends belong to them
if `closed`. -/
structure Interval where
  low : Nat
  value : Nat
  high : Nat
  den : Nat
  closed : Bool

namespace Interval

/-- The numbers that round to `mantissa · 2 ^ exponent`. Below a power of two the next number is
half as far away. -/
def ofMantissa (format : Binary.Format) (mantissa : Nat) (exponent : Int) : Interval :=
  let quarter := exponent - 2
  let unit := twoTo quarter.toNat
  let below :=
    if mantissa = twoTo format.fractionBits ∧ format.leastExponent < exponent then 1 else 2
  { low := (4 * mantissa - below) * unit
    value := 4 * mantissa * unit
    high := (4 * mantissa + 2) * unit
    den := twoTo (-quarter).toNat
    closed := mantissa % 2 == 0 }

/-- The same numbers in units of `10 ^ exponent`. -/
def inUnits (interval : Interval) (exponent : Int) : Interval :=
  let up := tenTo (-exponent).toNat
  { interval with
    low := interval.low * up
    value := interval.value * up
    high := interval.high * up
    den := interval.den * tenTo exponent.toNat }

def contains (interval : Interval) (n : Nat) : Bool :=
  let x := n * interval.den
  if interval.closed then interval.low ≤ x && x ≤ interval.high
  else interval.low < x && x < interval.high

def nearestInteger? (interval : Interval) (tie : Tie) : Option Nat :=
  let down := interval.value / interval.den
  let rest := interval.value % interval.den
  let takesDown := decide (0 < down) && interval.contains down
  let takesUp := interval.contains (down + 1)
  let nearerDown :=
    2 * rest < interval.den ||
      (2 * rest == interval.den && tie == .even && down % 2 == 0)
  if takesDown && (nearerDown || !takesUp) then some down
  else if takesUp then some (down + 1)
  else none

/-- Tries the decimal grids from `10 ^ exponent` downwards. -/
def shortestFrom (interval : Interval) (tie : Tie) : Nat → Int → Scientific
  | 0, exponent =>
    let scaled := interval.inUnits exponent
    ⟨scaled.value / scaled.den, exponent⟩
  | tries + 1, exponent =>
    match (interval.inUnits exponent).nearestInteger? tie with
    | some coefficient => ⟨coefficient, exponent⟩
    | none => shortestFrom interval tie tries (exponent - 1)

def startExponent (interval : Interval) : Int :=
  let bits : Int := (interval.high.log2 : Int) - interval.den.log2 + 1
  (if 0 ≤ bits then bits * 30103 else bits * 30102) / 100000 + 1

end Interval

/-- The fewest digits that read back as `mantissa · 2 ^ exponent`, and of those the nearest. -/
def shortest (format : Binary.Format) (tie : Tie) (mantissa : Nat) (exponent : Int) :
    Scientific :=
  let interval := Interval.ofMantissa format mantissa exponent
  interval.shortestFrom tie 24 interval.startExponent

end Spreadsheet.Decimal
