import Spreadsheet.Binary.Format
import Spreadsheet.Text.Ascii
import Spreadsheet.Text.Blank

namespace Spreadsheet.Decimal

open Spreadsheet.Text

structure PowerOfTen where
  negative : Bool
  digits : List Char
  deriving DecidableEq, Repr

def PowerOfTen.value (power : PowerOfTen) : Int :=
  if power.negative then -decimalValue power.digits else decimalValue power.digits

/-- An unsigned numeral. The fraction is what stands behind a point, if there is one. -/
structure Numeral where
  whole : List Char
  fraction : Option (List Char)
  power : Option PowerOfTen
  deriving DecidableEq, Repr

def spanDigits (s : List Char) : List Char × List Char :=
  (s.takeWhile Char.isDigit, s.dropWhile Char.isDigit)

theorem spanDigits_append (s : List Char) : (spanDigits s).1 ++ (spanDigits s).2 = s :=
  List.takeWhile_append_dropWhile

theorem spanDigits_length (s : List Char) : (spanDigits s).2.length ≤ s.length :=
  (List.dropWhile_sublist _).length_le

theorem spanDigits_cons_length {c : Char} (h : c.isDigit = true) (s : List Char) :
    (spanDigits (c :: s)).2.length ≤ s.length := by
  simpa [spanDigits, h] using (List.dropWhile_sublist Char.isDigit (l := s)).length_le

def scanFraction : List Char → Option (List Char) × List Char
  | '.' :: rest => (some (spanDigits rest).1, (spanDigits rest).2)
  | rest => (none, rest)

theorem scanFraction_length (s : List Char) : (scanFraction s).2.length ≤ s.length := by
  unfold scanFraction
  split
  next rest =>
    have := spanDigits_length rest
    simp only [List.length_cons]
    omega
  next => exact Nat.le_refl _

/-- Takes a sign off the front; true for a minus. -/
def scanSign : List Char → Bool × List Char
  | '-' :: rest => (true, rest)
  | '+' :: rest => (false, rest)
  | rest => (false, rest)

theorem scanSign_length (s : List Char) : (scanSign s).2.length ≤ s.length := by
  unfold scanSign
  split <;> simp

def isPowerMark (c : Char) : Bool := c == 'e' || c == 'E'

/-- A power of ten counts only if digits follow its mark. -/
def scanPower (s : List Char) : Option PowerOfTen × List Char :=
  match s with
  | [] => (none, s)
  | mark :: rest =>
    let sign := scanSign rest
    let digits := spanDigits sign.2
    if isPowerMark mark && !digits.1.isEmpty then (some ⟨sign.1, digits.1⟩, digits.2)
    else (none, s)

theorem scanPower_length (s : List Char) : (scanPower s).2.length ≤ s.length := by
  unfold scanPower
  split
  next => exact Nat.le_refl _
  next mark rest =>
    have hsign := scanSign_length rest
    have hdigits := spanDigits_length (scanSign rest).2
    dsimp only
    split
    · simp only [List.length_cons]
      omega
    · exact Nat.le_refl _

/-- A numeral starts with a digit, or with a point before one. -/
def startsNumeral : List Char → Bool
  | '.' :: c :: _ => c.isDigit
  | c :: _ => c.isDigit
  | [] => false

namespace Numeral

/-- The longest numeral at the front, perhaps without any digit. -/
def scan (s : List Char) : Numeral × List Char :=
  let whole := spanDigits s
  let fraction := scanFraction whole.2
  let power := scanPower fraction.2
  (⟨whole.1, fraction.1, power.1⟩, power.2)

theorem scan_length {c : Char} {s : List Char} (h : startsNumeral (c :: s) = true) :
    (scan (c :: s)).2.length ≤ s.length := by
  refine Nat.le_trans (scanPower_length _) ?_
  by_cases hdigit : c.isDigit = true
  · exact Nat.le_trans (scanFraction_length _) (spanDigits_cons_length hdigit s)
  · have hpoint : c = '.' := by
      unfold startsNumeral at h
      split at h <;> simp_all
    subst hpoint
    simpa [spanDigits, scanFraction] using spanDigits_length s

def digits (numeral : Numeral) : List Char := numeral.whole ++ numeral.fraction.getD []

def scale (numeral : Numeral) : Int :=
  (numeral.power.map PowerOfTen.value).getD 0 - (numeral.fraction.getD []).length

/-- Word of the number nearest to the numeral. Beyond the largest exponents nothing but infinity
or zero can be nearest, whatever the digits are. -/
def toWord (format : Binary.Format) (numeral : Numeral) : Nat :=
  let significant := numeral.digits.dropWhile (· == '0')
  let leading := numeral.scale + significant.length
  if significant.isEmpty ∨ leading < -400 then 0
  else if 400 < leading then format.infinity
  else
    format.ofRatio (decimalValue significant * tenTo numeral.scale.toNat)
      (tenTo (-numeral.scale).toNat)

def toFloat (numeral : Numeral) (negative : Bool) : Float :=
  Binary.ofWord (Binary.double.withSign negative (numeral.toWord Binary.double))

def read? (s : List Char) : Option Numeral :=
  match scan s with
  | (numeral, []) => if numeral.digits.isEmpty then none else some numeral
  | _ => none

end Numeral

def readFloat? (s : List Char) : Option Float :=
  (Numeral.read? (scanSign s).2).map fun numeral => numeral.toFloat (scanSign s).1

/-- Reads text that is entirely a finite decimal number, blanks around it aside. -/
def readNumber? (s : List Char) : Option Float :=
  (readFloat? (trim s)).filter Float.isFinite

end Spreadsheet.Decimal
