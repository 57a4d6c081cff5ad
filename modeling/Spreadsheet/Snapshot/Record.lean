import Spreadsheet.Json

/-! Records in JSON documents: objects, or lists of the fields in order. -/

namespace Spreadsheet.Json

/-- The member of a name, if there is exactly one or none of it. -/
def field? (members : List (String × Json)) (name : String) : Option (Option Json) :=
  match members.filter (·.1 == name) with
  | [] => some none
  | [member] => some (some member.2)
  | _ => none

/-- The fields of a record by their names. Unknown members of an object are ignored; a list may
end early but holds no more than the fields. -/
def fields? (names : List String) : Json → Option (List (Option Json))
  | .array items =>
    if items.length ≤ names.length then
      some (items.map some ++ List.replicate (names.length - items.length) none)
    else none
  | json => do
    let members ← json.members?
    names.mapM (field? members)

def required (read : Json → Option α) (field : Option Json) : Option α := field.bind read

def withDefault (default : α) (read : Json → Option α) : Option Json → Option α
  | none => some default
  | some json => read json

/-- A field without a value may be missing or null. -/
def optional (read : Json → Option α) : Option Json → Option (Option α)
  | none => some none
  | some .null => some none
  | some json => (read json).map some

/-- The name of a case: a text, or an object with null under the name. -/
def case? : Json → Option String
  | .object [(key, .null)] => (unescape key).map String.ofList
  | json => json.text?

def below? (bound : Nat) (json : Json) : Option Nat := json.nat?.filter (· < bound)

def ofFields (fields : List (String × Option Json)) : Json :=
  ofMembers (fields.filterMap fun field => field.2.map (field.1, ·))

end Spreadsheet.Json
