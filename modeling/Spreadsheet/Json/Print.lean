import Spreadsheet.Json

namespace Spreadsheet.Json

def printString (spelling : List Char) : List Char := '"' :: spelling ++ ['"']

mutual

def print : Json → List Char
  | .null => ['n', 'u', 'l', 'l']
  | .boolean true => ['t', 'r', 'u', 'e']
  | .boolean false => ['f', 'a', 'l', 's', 'e']
  | .number spelling => spelling
  | .string spelling => printString spelling
  | .array [] => ['[', ']']
  | .array (item :: items) => '[' :: print item ++ printItems items
  | .object [] => ['{', '}']
  | .object ((key, value) :: members) =>
    '{' :: printString key ++ ':' :: print value ++ printMembers members

def printItems : List Json → List Char
  | [] => [']']
  | item :: items => ',' :: print item ++ printItems items

def printMembers : List (List Char × Json) → List Char
  | [] => ['}']
  | (key, value) :: members =>
    ',' :: printString key ++ ':' :: print value ++ printMembers members

end

def toText (json : Json) : String := .ofList json.print

end Spreadsheet.Json
