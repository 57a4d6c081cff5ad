import Spreadsheet.Evaluation
import Spreadsheet.Options

/-! Evaluations over one grid that share an allowance of range cells. -/

namespace Spreadsheet

structure Session where
  grid : Grid
  meter : Meter

namespace Session

def start (grid : Grid) (options : Options) : Session := ⟨grid, .fresh options.maxRangeCells⟩

def remaining (session : Session) : Nat := session.meter.remaining.toNat

/-- Runs a computation; what it draws stays drawn even if it fails. -/
def run (session : Session) (computation : Metered Meter α) :
    Except FormulaError α × Session :=
  let (result, meter) := computation.run session.meter
  (result, { session with meter := meter })

def evaluate (session : Session) (expr : Formula.Expr) : Except FormulaError Value × Session :=
  session.run (Spreadsheet.evaluate session.grid expr)

def readRange (session : Session) (range : Range) : Except FormulaError Value × Session :=
  session.run (session.grid.meteredRange range)

def readCell (session : Session) (address : Address) : Value :=
  session.grid.typedCell address

end Session

end Spreadsheet
