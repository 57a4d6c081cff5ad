import Spreadsheet.Power

namespace Spreadsheet.Binary

/-- A floating-point number, the finite ones as `mantissa · 2 ^ exponent`. -/
inductive Datum
  | finite (negative : Bool) (mantissa : Nat) (exponent : Int)
  | infinite (negative : Bool)
  | notANumber
  deriving DecidableEq, Repr

/-- Widths of the fields of a word; a sign bit stands above them. -/
structure Format where
  fractionBits : Nat
  exponentBits : Nat

def double : Format := ⟨52, 11⟩

def single : Format := ⟨23, 8⟩

namespace Format

/-- Exponent of the unit in the last place of the smallest numbers. -/
def leastExponent (format : Format) : Int :=
  2 - (twoTo (format.exponentBits - 1) : Int) - (format.fractionBits : Int)

def infinity (format : Format) : Nat :=
  (twoTo format.exponentBits - 1) * twoTo format.fractionBits

def signWeight (format : Format) : Nat :=
  twoTo (format.fractionBits + format.exponentBits)

def decode (format : Format) (word : Nat) : Datum :=
  let negative := decide (format.signWeight ≤ word)
  let fraction := word % twoTo format.fractionBits
  let field := word / twoTo format.fractionBits % twoTo format.exponentBits
  if field = twoTo format.exponentBits - 1 then
    if fraction = 0 then .infinite negative else .notANumber
  else if field = 0 then
    .finite negative fraction format.leastExponent
  else
    .finite negative (twoTo format.fractionBits + fraction) (format.leastExponent + field - 1)

/-- The integer nearest to `num / den`, the even one of two. -/
def nearestQuotient (num den : Nat) : Nat :=
  let quotient := num / den
  let remainder := num % den
  if 2 * remainder < den then quotient
  else if den < 2 * remainder then quotient + 1
  else quotient + quotient % 2

/-- `num / den` in units of `2 ^ exponent`, as a fraction again. -/
def inUnits (num den : Nat) (exponent : Int) : Nat × Nat :=
  (num * twoTo (-exponent).toNat, den * twoTo exponent.toNat)

/-- The least exponent at which the quotient of `num / den` fits the mantissa. -/
def fittingExponent (format : Format) (num den : Nat) : Int :=
  let low := max format.leastExponent ((num.log2 : Int) - den.log2 - 1 - format.fractionBits)
  let scaled := inUnits num den low
  if scaled.1 / scaled.2 < twoTo (format.fractionBits + 1) then low else low + 1

/-- Word of the number nearest to `num / den`, ties to the even mantissa and what is too large to
infinity. A mantissa that rounds up to the next power of two carries into the exponent field. -/
def ofRatio (format : Format) (num den : Nat) : Nat :=
  if num = 0 then 0
  else
    let exponent := format.fittingExponent num den
    let scaled := inUnits num den exponent
    min format.infinity
      ((exponent - format.leastExponent).toNat * twoTo format.fractionBits +
        nearestQuotient scaled.1 scaled.2)

def withSign (format : Format) (negative : Bool) (word : Nat) : Nat :=
  if negative then format.signWeight + word else word

def ofScaled (format : Format) (negative : Bool) (mantissa : Nat) (exponent : Int) : Nat :=
  format.withSign negative
    (format.ofRatio (mantissa * twoTo exponent.toNat) (twoTo (-exponent).toNat))

end Format

def datum (x : Float) : Datum := double.decode x.toBits.toNat

def datum32 (x : Float32) : Datum := single.decode x.toBits.toNat

def ofWord (word : Nat) : Float := .ofBits (.ofNat word)

def ofWord32 (word : Nat) : Float32 := .ofBits (.ofNat word)

/-- The single-precision number nearest to a double-precision one. -/
def narrow (x : Float) : Float32 :=
  match datum x with
  | .finite negative mantissa exponent => ofWord32 (single.ofScaled negative mantissa exponent)
  | .infinite negative => ofWord32 (single.withSign negative single.infinity)
  | .notANumber => 0 / 0

end Spreadsheet.Binary
