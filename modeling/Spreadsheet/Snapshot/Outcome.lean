import Spreadsheet.Outcome
import Spreadsheet.Snapshot.Record

namespace Spreadsheet

open Spreadsheet.Json

namespace ErrorTag

def toJson (tag : ErrorTag) : Json := .ofText tag.word

def ofJson? (json : Json) : Option ErrorTag := json.case?.bind ofWord?

end ErrorTag

namespace ErrorDisplay

def word : ErrorDisplay → String
  | .generic => "generic"
  | .detailed => "detailed"

def ofWord? (word : String) : Option ErrorDisplay := [generic, detailed].find? (·.word == word)

end ErrorDisplay

namespace Options

def fieldNames : List String := ["error_display", "max_depth", "max_operators", "max_range_cells"]

def toJson (options : Options) : Json :=
  .ofFields (fieldNames.zip [
    some (.ofText options.errorDisplay.word),
    some (.ofNat options.maxDepth.toNat),
    some (.ofNat options.maxOperators.toNat),
    some (.ofNat options.maxRangeCells.toNat)])

def limit? (json : Json) : Option UInt64 := (below? UInt64.size json).map .ofNat

/-- What is missing keeps its standard setting. -/
def ofJson? (json : Json) : Option Options := do
  match ← json.fields? fieldNames with
  | [errorDisplay, maxDepth, maxOperators, maxRangeCells] =>
    return {
      errorDisplay := ← withDefault standard.errorDisplay
        (fun json => json.case?.bind ErrorDisplay.ofWord?) errorDisplay
      maxDepth := ← withDefault standard.maxDepth limit? maxDepth
      maxOperators := ← withDefault standard.maxOperators limit? maxOperators
      maxRangeCells := ← withDefault standard.maxRangeCells limit? maxRangeCells }
  | _ => none

end Options

namespace Outcome

inductive Kind
  | success
  | error
  deriving DecidableEq, Repr

def Kind.ofWord? : String → Option Kind
  | "success" => some .success
  | "error" => some .error
  | _ => none

def toJson : Outcome → Json
  | .success text => .ofMembers [("kind", .ofText "success"), ("value", .ofText text)]
  | .failure tag => .ofMembers [("kind", .ofText "error"), ("value", tag.toJson)]

def kind? (json : Json) : Option Kind := json.case?.bind Kind.ofWord?

def ofKind? (kind : Kind) (value : Json) : Option Outcome :=
  match kind with
  | .success => value.text?.map .success
  | .error => (ErrorTag.ofJson? value).map .failure

/-- A value read before its kind may hold an empty object in place of null. -/
def early : Json → Json
  | .object [(key, .object [])] => .object [(key, .null)]
  | json => json

def ofJson? : Json → Option Outcome
  | .array [kind, value] => do ofKind? (← kind? kind) value
  | .array _ => none
  | json => do
    match (← json.members?).filter fun member => member.1 == "kind" || member.1 == "value" with
    | [("kind", kind), ("value", value)] => ofKind? (← kind? kind) value
    | [("value", value), ("kind", kind)] => ofKind? (← kind? kind) (early value)
    | _ => none

end Outcome

end Spreadsheet
