import Spreadsheet.Text.Ascii
import Spreadsheet.Text.EscapeTable

/-! Text in quotes for a message, with every character made visible. -/

namespace Spreadsheet.Text

def escapeByNumber (c : Char) : List Char :=
  ['\\', 'u', '{'] ++ hexDigits c.toNat ++ ['}']

def quotedChar (c : Char) : List Char :=
  match c with
  | '"' => ['\\', '"']
  | '\\' => ['\\', '\\']
  | '\n' => ['\\', 'n']
  | '\r' => ['\\', 'r']
  | '\t' => ['\\', 't']
  | '\x00' => ['\\', '0']
  | c => if invisibleRanges.contains c then escapeByNumber c else [c]

def quoted (s : List Char) : List Char := '"' :: s.flatMap quotedChar ++ ['"']

end Spreadsheet.Text
