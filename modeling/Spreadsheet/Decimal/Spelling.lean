import Spreadsheet.Decimal.Shortest
import Spreadsheet.Text.Ascii

namespace Spreadsheet.Decimal

open Spreadsheet.Text

/-- How a number is spelled. The exponent is that of the leading digit. -/
structure Style where
  positional : Int → Bool
  /-- Integers in positional form end in `.0`. -/
  pointZero : Bool
  /-- Positive exponents carry their sign. -/
  plusSign : Bool
  tie : Tie

namespace Style

/-- Numbers on display: exponents outside `1e-6` up to `1e21`, always with a sign. -/
def display : Style where
  positional exponent := -6 ≤ exponent && exponent < 21
  pointZero := false
  plusSign := true
  tie := .up

/-- Numbers within a sentence: never an exponent. -/
def plain : Style where
  positional _ := true
  pointZero := false
  plusSign := false
  tie := .up

/-- Numbers that are told apart from text: a point or an exponent in each. -/
def tagged : Style where
  positional exponent := -4 ≤ exponent && exponent < 16
  pointZero := true
  plusSign := false
  tie := .up

/-- Single-precision numbers in a snapshot: a point in each integer, and exponents outside `1e-6`
up to `1e13`, always with a sign. -/
def snapshot : Style where
  positional exponent := -6 ≤ exponent && exponent < 13
  pointZero := true
  plusSign := true
  tie := .even

end Style

def zeros (n : Nat) : List Char := List.replicate n '0'

def withPoint (digits : List Char) (places : Nat) : List Char :=
  let padded := zeros (places + 1 - digits.length) ++ digits
  let whole := padded.length - places
  padded.take whole ++ '.' :: padded.drop whole

def spellPositional (style : Style) (digits : List Char) (exponent : Int) : List Char :=
  if 0 ≤ exponent then
    digits ++ zeros exponent.toNat ++ if style.pointZero then ['.', '0'] else []
  else
    withPoint digits (-exponent).toNat

def spellInt (n : Int) : List Char :=
  (if n < 0 then ['-'] else []) ++ decimalDigits n.natAbs

def spellExponent (style : Style) (digits : List Char) (exponent : Int) : List Char :=
  (match digits with
    | first :: second :: rest => first :: '.' :: second :: rest
    | digits => digits) ++
  'e' :: (if style.plusSign && decide (0 ≤ exponent) then ['+'] else []) ++ spellInt exponent

def spellScientific (style : Style) (x : Scientific) : List Char :=
  let digits := decimalDigits x.coefficient
  let leading := x.exponent + digits.length - 1
  if style.positional leading then spellPositional style digits x.exponent
  else spellExponent style digits leading

def spellDatum (style : Style) (format : Binary.Format) : Binary.Datum → List Char
  | .finite negative mantissa exponent =>
    (if negative then ['-'] else []) ++
      if mantissa = 0 then spellPositional style ['0'] 0
      else spellScientific style (shortest format style.tie mantissa exponent)
  | .infinite negative => (if negative then ['-'] else []) ++ ['i', 'n', 'f']
  | .notANumber => ['N', 'a', 'N']

def spell (style : Style) (x : Float) : List Char :=
  spellDatum style Binary.double (Binary.datum x)

def spell32 (style : Style) (x : Float32) : List Char :=
  spellDatum style Binary.single (Binary.datum32 x)

/-- The spelling of a number in a cell, where zero has no sign. -/
def display (x : Float) : List Char :=
  match Binary.datum x with
  | .finite _ 0 _ => ['0']
  | datum => spellDatum .display Binary.double datum

end Spreadsheet.Decimal
