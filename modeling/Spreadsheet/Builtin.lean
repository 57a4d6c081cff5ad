import Spreadsheet.FormulaError
import Spreadsheet.Text.Ascii

namespace Spreadsheet

open Spreadsheet.Text

inductive Strict
  | sum
  | abs
  | round
  | mod
  | average
  | count
  | counta
  | max
  | min
  | and
  | or
  | not
  | vlookup
  | hlookup
  | concatenate
  | left
  | right
  | mid
  | len
  | upper
  | lower
  | trim
  deriving DecidableEq, Repr

/-- Functions that evaluate only some of their arguments. -/
inductive Selective
  | cond
  | ifError
  deriving DecidableEq, Repr

inductive Builtin
  | strict (f : Strict)
  | selective (f : Selective)
  deriving DecidableEq, Repr

/-- Least and greatest number of arguments; without the latter there may be any number. -/
structure Arity where
  least : Nat
  most : Option Nat
  deriving DecidableEq, Repr

namespace Arity

def broken? (arity : Arity) (actual : Nat) : Option ArgumentBound :=
  match arity.most with
  | none => if actual < arity.least then some (.atLeast arity.least) else none
  | some most =>
    if most = arity.least then
      if actual < arity.least ∨ most < actual then some (.exactly most) else none
    else if actual < arity.least then some (.atLeast arity.least)
    else if most < actual then some (.atMost most)
    else none

def check (arity : Arity) (function : String) (actual : Nat) : Except FormulaError Unit :=
  match arity.broken? actual with
  | some expected => .error (.argumentCount function expected actual)
  | none => .ok ()

end Arity

def Strict.name : Strict → String
  | .sum => "SUM"
  | .abs => "ABS"
  | .round => "ROUND"
  | .mod => "MOD"
  | .average => "AVERAGE"
  | .count => "COUNT"
  | .counta => "COUNTA"
  | .max => "MAX"
  | .min => "MIN"
  | .and => "AND"
  | .or => "OR"
  | .not => "NOT"
  | .vlookup => "VLOOKUP"
  | .hlookup => "HLOOKUP"
  | .concatenate => "CONCATENATE"
  | .left => "LEFT"
  | .right => "RIGHT"
  | .mid => "MID"
  | .len => "LEN"
  | .upper => "UPPER"
  | .lower => "LOWER"
  | .trim => "TRIM"

def Strict.arity : Strict → Arity
  | .sum => ⟨1, none⟩
  | .abs => ⟨1, some 1⟩
  | .round => ⟨1, some 2⟩
  | .mod => ⟨2, some 2⟩
  | .average => ⟨1, none⟩
  | .count => ⟨1, none⟩
  | .counta => ⟨1, none⟩
  | .max => ⟨1, none⟩
  | .min => ⟨1, none⟩
  | .and => ⟨1, none⟩
  | .or => ⟨1, none⟩
  | .not => ⟨1, some 1⟩
  | .vlookup => ⟨3, some 4⟩
  | .hlookup => ⟨3, some 4⟩
  | .concatenate => ⟨1, none⟩
  | .left => ⟨1, some 2⟩
  | .right => ⟨1, some 2⟩
  | .mid => ⟨3, some 3⟩
  | .len => ⟨1, some 1⟩
  | .upper => ⟨1, some 1⟩
  | .lower => ⟨1, some 1⟩
  | .trim => ⟨1, some 1⟩

def Selective.name : Selective → String
  | .cond => "IF"
  | .ifError => "IFERROR"

def Selective.arity : Selective → Arity
  | .cond => ⟨2, some 3⟩
  | .ifError => ⟨2, some 2⟩

namespace Builtin

def all : List Builtin := [
  .strict .sum, .strict .abs, .strict .round, .strict .mod, .strict .average, .strict .count,
  .strict .counta, .strict .max, .strict .min, .selective .cond, .selective .ifError,
  .strict .and, .strict .or, .strict .not, .strict .vlookup, .strict .hlookup,
  .strict .concatenate, .strict .left, .strict .right, .strict .mid, .strict .len,
  .strict .upper, .strict .lower, .strict .trim]

def name : Builtin → String
  | .strict f => f.name
  | .selective f => f.name

def arity : Builtin → Arity
  | .strict f => f.arity
  | .selective f => f.arity

def isSelective : Builtin → Bool
  | .strict _ => false
  | .selective _ => true

def ofName? (name : String) : Option Builtin :=
  all.find? (·.name.toList == upperAscii name.toList)

end Builtin

end Spreadsheet
