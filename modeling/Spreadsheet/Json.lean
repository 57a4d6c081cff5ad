import Spreadsheet.Text.Ascii

/-! JSON documents, with numbers and texts as they are spelled. -/

namespace Spreadsheet

open Spreadsheet.Text

/-- A spelling is not interpreted before something asks for its value, so a document may hold
numbers and texts that have none. -/
inductive Json
  | null
  | boolean (b : Bool)
  | number (spelling : List Char)
  | string (spelling : List Char)
  | array (items : List Json)
  | object (members : List (List Char × Json))
  deriving Inhabited

namespace Json

/-- Spelling of a character between quotes. Only quotes, backslashes and controls are escaped. -/
def escapeChar (c : Char) : List Char :=
  match c with
  | '"' => ['\\', '"']
  | '\\' => ['\\', '\\']
  | '\n' => ['\\', 'n']
  | '\r' => ['\\', 'r']
  | '\t' => ['\\', 't']
  | '\x08' => ['\\', 'b']
  | '\x0c' => ['\\', 'f']
  | c =>
    if c.toNat < 0x10 then ['\\', 'u', '0', '0', '0'] ++ hexDigits c.toNat
    else if c.toNat < 0x20 then ['\\', 'u', '0', '0'] ++ hexDigits c.toNat
    else [c]

def escape (s : List Char) : List Char := s.flatMap escapeChar

def ofText (s : String) : Json := .string (escape s.toList)

def ofNat (n : Nat) : Json := .number (decimalDigits n)

def ofMembers (members : List (String × Json)) : Json :=
  .object (members.map fun member => (escape member.1.toList, member.2))

def hexValue? (c : Char) : Option Nat :=
  if c.isDigit then some (c.toNat - '0'.toNat)
  else if 'a' ≤ c ∧ c ≤ 'f' then some (c.toNat - 'a'.toNat + 10)
  else if 'A' ≤ c ∧ c ≤ 'F' then some (c.toNat - 'A'.toNat + 10)
  else none

def codeUnit? (a b c d : Char) : Option Nat := do
  return 0x1000 * (← hexValue? a) + 0x100 * (← hexValue? b) + 0x10 * (← hexValue? c) +
    (← hexValue? d)

/-- The character a backslash and `c` stand for. -/
def namedEscape? (c : Char) : Option Char :=
  match c with
  | '"' => some '"'
  | '\\' => some '\\'
  | '/' => some '/'
  | 'n' => some '\n'
  | 'r' => some '\r'
  | 't' => some '\t'
  | 'b' => some '\x08'
  | 'f' => some '\x0c'
  | _ => none

def isHighSurrogate (code : Nat) : Bool := 0xD800 ≤ code && code < 0xDC00

def isLowSurrogate (code : Nat) : Bool := 0xDC00 ≤ code && code < 0xE000

def ofSurrogates (high low : Nat) : Char :=
  Char.ofNat (0x10000 + 0x400 * (high - 0xD800) + (low - 0xDC00))

/-- The text that a spelling stands for. Half of a surrogate pair stands for none. -/
def unescape : List Char → Option (List Char)
  | [] => some []
  | '\\' :: 'u' :: a :: b :: c :: d :: rest => do
    let code ← codeUnit? a b c d
    if isHighSurrogate code then
      match rest with
      | '\\' :: 'u' :: e :: f :: g :: h :: rest =>
        let low ← codeUnit? e f g h
        if isLowSurrogate low then return ofSurrogates code low :: (← unescape rest) else none
      | _ => none
    else if isLowSurrogate code then none
    else return Char.ofNat code :: (← unescape rest)
  | '\\' :: c :: rest => do return (← namedEscape? c) :: (← unescape rest)
  | c :: rest => do return c :: (← unescape rest)

def text? : Json → Option String
  | .string spelling => (unescape spelling).map String.ofList
  | _ => none

def boolean? : Json → Option Bool
  | .boolean b => some b
  | _ => none

def nat? : Json → Option Nat
  | .number spelling => if spelling.all Char.isDigit then some (decimalValue spelling) else none
  | _ => none

def items? : Json → Option (List Json)
  | .array items => some items
  | _ => none

def members? : Json → Option (List (String × Json))
  | .object members => members.mapM fun (key, value) =>
    (unescape key).map fun key => (.ofList key, value)
  | _ => none

end Json

end Spreadsheet
