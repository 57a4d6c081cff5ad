import Spreadsheet.Grid.Typed

namespace Spreadsheet

/-- How many cells ranges may cover together, and how many were read so far. -/
structure Meter where
  allowed : UInt64
  read : UInt64
  deriving DecidableEq, Repr

namespace Meter

def fresh (allowed : UInt64) : Meter := ⟨allowed, 0⟩

def remaining (meter : Meter) : UInt64 :=
  if meter.read ≤ meter.allowed then meter.allowed - meter.read else 0

def draw (meter : Meter) (cells : UInt64) : Meter := { meter with read := meter.read + cells }

end Meter

/-- A computation that ends with a value or an error, and in either case with a state. -/
abbrev Metered (σ : Type) := ExceptT FormulaError (StateM σ)

/-- What references read. A cell always has a value; a range may be refused. -/
structure Source (σ : Type) where
  cell : Address → Value
  range : Range → Metered σ Value

namespace Grid

/-- Reads a range and counts its cells, if as many are still allowed. -/
def meteredRange (grid : Grid) (range : Range) : Metered Meter Value := do
  let meter ← get
  if meter.remaining < range.cellCount then
    throw (.invalidReference
      (.rangeTooLarge range range.cellCount.toNat meter.remaining.toNat))
  set (meter.draw range.cellCount)
  return grid.typedRange range

def source (grid : Grid) : Source Meter := ⟨grid.typedCell, grid.meteredRange⟩

end Grid

end Spreadsheet
