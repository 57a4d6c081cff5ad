import Spreadsheet.Formula.Parse

namespace Spreadsheet

inductive ErrorDisplay
  | generic
  | detailed
  deriving DecidableEq, Repr

structure Options where
  errorDisplay : ErrorDisplay
  maxDepth : UInt64
  maxOperators : UInt64
  /-- How many cells all ranges that are read may cover together. -/
  maxRangeCells : UInt64
  deriving DecidableEq, Repr

namespace Options

def standard : Options := ⟨.generic, 64, 512, 2000000⟩

def limits (options : Options) : Formula.Limits :=
  ⟨options.maxDepth.toNat, options.maxOperators.toNat⟩

end Options

end Spreadsheet
