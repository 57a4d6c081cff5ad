import Spreadsheet.Decimal.Numeral
import Spreadsheet.Json

namespace Spreadsheet.Json

open Spreadsheet.Decimal

def isSpace (c : Char) : Bool := c == ' ' || c == '\n' || c == '\t' || c == '\r'

def skipSpace (s : List Char) : List Char := s.dropWhile isSpace

/-- The spelling behind an opening quote, and what stands behind the closing one. -/
def scanString : List Char → Option (List Char × List Char)
  | [] => none
  | '"' :: rest => some ([], rest)
  | '\\' :: 'u' :: a :: b :: c :: d :: rest => do
    let _ ← codeUnit? a b c d
    let (spelling, rest) ← scanString rest
    return ('\\' :: 'u' :: a :: b :: c :: d :: spelling, rest)
  | '\\' :: c :: rest => do
    let _ ← namedEscape? c
    let (spelling, rest) ← scanString rest
    return ('\\' :: c :: spelling, rest)
  | c :: rest =>
    if c.toNat < 0x20 then none
    else do
      let (spelling, rest) ← scanString rest
      return (c :: spelling, rest)

/-- No zeros lead the digits, and digits follow a point. -/
def isNumber (numeral : Numeral) : Bool :=
  (match numeral.whole with
    | [] => false
    | '0' :: rest => rest.isEmpty
    | _ => true) &&
  numeral.fraction != some []

def scanNumber (s : List Char) : Option (List Char × List Char) :=
  let unsigned := match s with
    | '-' :: rest => rest
    | _ => s
  let scanned := Numeral.scan unsigned
  if isNumber scanned.1 then some (s.take (s.length - scanned.2.length), scanned.2) else none

mutual

/-- Reads a value at the front. The bound is on the values that stand in and behind each other. -/
def readValue : Nat → List Char → Option (Json × List Char)
  | 0, _ => none
  | bound + 1, s =>
    match skipSpace s with
    | 'n' :: 'u' :: 'l' :: 'l' :: rest => some (.null, rest)
    | 't' :: 'r' :: 'u' :: 'e' :: rest => some (.boolean true, rest)
    | 'f' :: 'a' :: 'l' :: 's' :: 'e' :: rest => some (.boolean false, rest)
    | '"' :: rest => (scanString rest).map fun (spelling, rest) => (.string spelling, rest)
    | '[' :: rest =>
      match skipSpace rest with
      | ']' :: rest => some (.array [], rest)
      | rest => (readItems bound rest).map fun (items, rest) => (.array items, rest)
    | '{' :: rest =>
      match skipSpace rest with
      | '}' :: rest => some (.object [], rest)
      | rest => (readMembers bound rest).map fun (members, rest) => (.object members, rest)
    | s => (scanNumber s).map fun (spelling, rest) => (.number spelling, rest)

def readItems : Nat → List Char → Option (List Json × List Char)
  | 0, _ => none
  | bound + 1, s => do
    let (item, rest) ← readValue bound s
    match skipSpace rest with
    | ']' :: rest => return ([item], rest)
    | ',' :: rest =>
      let (items, rest) ← readItems bound rest
      return (item :: items, rest)
    | _ => none

def readMembers : Nat → List Char → Option (List (List Char × Json) × List Char)
  | 0, _ => none
  | bound + 1, s => do
    match skipSpace s with
    | '"' :: rest =>
      let (key, rest) ← scanString rest
      match skipSpace rest with
      | ':' :: rest =>
        let (value, rest) ← readValue bound rest
        match skipSpace rest with
        | '}' :: rest => return ([(key, value)], rest)
        | ',' :: rest =>
          let (members, rest) ← readMembers bound rest
          return ((key, value) :: members, rest)
        | _ => none
      | _ => none
    | _ => none

end

def read? (s : List Char) : Option Json := do
  let (json, rest) ← readValue (s.length + 1) s
  if (skipSpace rest).isEmpty then return json else none

end Spreadsheet.Json
