import Spreadsheet.Session

namespace Spreadsheet

inductive Outcome
  | success (text : String)
  | failure (tag : ErrorTag)
  deriving DecidableEq, Repr

namespace Outcome

def tag? : Outcome → Option ErrorTag
  | .success _ => none
  | .failure tag => some tag

def isFailure (outcome : Outcome) : Bool := outcome.tag?.isSome

def render (display : ErrorDisplay) : Outcome → String
  | .success text => text
  | .failure tag =>
    match display with
    | .generic => ErrorTag.generic.label
    | .detailed => tag.label

end Outcome

def Options.parse (options : Options) (formula : String) : Except FormulaError Formula.Expr :=
  (Formula.parse options.limits formula.toList).mapError .parse

namespace Grid

def value (grid : Grid) (options : Options) (formula : String) : Except FormulaError Value := do
  ((Session.start grid options).evaluate (← options.parse formula)).1

def text (grid : Grid) (options : Options) (formula : String) : Except FormulaError String := do
  (← grid.value options formula).toText

def outcome (grid : Grid) (options : Options) (formula : String) : Outcome :=
  match grid.text options formula with
  | .ok text => .success text
  | .error error => .failure error.tag

def display (grid : Grid) (options : Options) (formula : String) : String :=
  (grid.outcome options formula).render options.errorDisplay

/-- Stores a formula with what it shows over the grid as it was. -/
def writeFormula (grid : Grid) (address : List Char) (formula : String) :
    Except ReferenceError (String × Grid) := do
  let shown := grid.display .standard formula
  return (shown, ← grid.writeAt address (.computed shown formula))

end Grid

end Spreadsheet
