import Spreadsheet.Builtin

namespace Spreadsheet

open Spreadsheet.Text

structure Definition where
  name : String
  arity : Arity
  builtin : Builtin
  deriving DecidableEq, Repr

/-- Definitions in the order of their names, no two of them equal. -/
structure Registry where
  definitions : List Definition
  deriving DecidableEq, Repr

namespace Registry

def insertInto (definition : Definition) : List Definition → List Definition
  | [] => [definition]
  | first :: others =>
    if definition.name = first.name then definition :: others
    else if definition.name < first.name then definition :: first :: others
    else first :: insertInto definition others

def insert (registry : Registry) (definition : Definition) : Registry :=
  ⟨insertInto definition registry.definitions⟩

def ofBuiltin (f : Builtin) : Definition := ⟨f.name, f.arity, f⟩

def standard : Registry := Builtin.all.foldl (fun registry f => registry.insert (ofBuiltin f)) ⟨[]⟩

/-- Asks for a name in any case. A name that holds lower-case letters is never found. -/
def get? (registry : Registry) (name : String) : Option Definition :=
  registry.definitions.find? (·.name.toList == upperAscii name.toList)

def names (registry : Registry) : List String := registry.definitions.map (·.name)

def size (registry : Registry) : Nat := registry.definitions.length

def isEmpty (registry : Registry) : Bool := registry.definitions.isEmpty

end Registry

end Spreadsheet
