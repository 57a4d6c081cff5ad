namespace Spreadsheet.Text

def upperAscii (s : List Char) : List Char := s.map Char.toUpper

def sameAscii (s t : List Char) : Bool := upperAscii s == upperAscii t

def digitValue (c : Char) : Nat := c.toNat - '0'.toNat

def decimalValue (digits : List Char) : Nat :=
  digits.foldl (fun value c => 10 * value + digitValue c) 0

def decimalDigits (n : Nat) : List Char := Nat.toDigits 10 n

def hexDigits (n : Nat) : List Char := Nat.toDigits 16 n

end Spreadsheet.Text
