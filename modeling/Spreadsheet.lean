import Spreadsheet.Registry
import Spreadsheet.Json.Print
import Spreadsheet.Json.Read
import Spreadsheet.Snapshot.Grid
import Spreadsheet.Snapshot.Outcome
import Spreadsheet.Snapshot.Reference
import Spreadsheet.Proofs.Formula.Grammar
import Spreadsheet.Proofs.Formula.Reader
import Spreadsheet.Proofs.Formula.Soundness
import Spreadsheet.Proofs.Formula.Completeness
import Spreadsheet.Proofs.Formula.Parse
import Spreadsheet.Proofs.Range.Cells
import Spreadsheet.Proofs.Binary.Finite
import Spreadsheet.Proofs.Builtin.WellFormed
import Spreadsheet.Proofs.Evaluation.Agreement
import Spreadsheet.Proofs.Evaluation.Allowance
import Spreadsheet.Proofs.Evaluation.Locality
import Spreadsheet.Proofs.Evaluation.WellFormed
import Spreadsheet.Proofs.Builtin.Failure
import Spreadsheet.Proofs.Evaluation.Failure
import Spreadsheet.Proofs.Formula.Height
import Spreadsheet.Proofs.Address.Print
import Spreadsheet.Proofs.Formula.Scanning
import Spreadsheet.Proofs.Decimal.Numeral
import Spreadsheet.Proofs.Formula.Writing
import Spreadsheet.Proofs.Binary.Exact
import Spreadsheet.Proofs.Decimal.Exact
import Spreadsheet.Proofs.Formula.RoundTrip
import Spreadsheet.Proofs.Evaluation.Depth
import Spreadsheet.Proofs.Formula.Spacing
import Spreadsheet.Proofs.Evaluation.Case
import Spreadsheet.Proofs.Grid.Editing
import Spreadsheet.Proofs.Binary.Nearest
import Spreadsheet.Proofs.Decimal.Print
import Spreadsheet.Proofs.Decimal.Nearest
import Spreadsheet.Proofs.Decimal.Shortest
import Spreadsheet.Proofs.Decimal.Display
import Spreadsheet.Proofs.Address.Read
import Spreadsheet.Proofs.Grid.Stored
import Spreadsheet.Proofs.Evaluation.Threshold
import Spreadsheet.Proofs.Formula.Place
import Spreadsheet.Proofs.Evaluation.Selection
import Spreadsheet.Proofs.Address.Notation
import Spreadsheet.Proofs.Grid.References
import Spreadsheet.Proofs.Json.Escape
import Spreadsheet.Proofs.Json.Print
import Spreadsheet.Proofs.Snapshot.RoundTrip
import Spreadsheet.Proofs.Grid.Used
import Spreadsheet.Proofs.Binary.Rounding
import Spreadsheet.Proofs.Binary.Arithmetic
import Spreadsheet.Proofs.Builtin.Rounding
import Spreadsheet.Proofs.Builtin.Remainder
import Spreadsheet.Proofs.Evaluation.Ranges
import Spreadsheet.Proofs.Grid.Rectangle
import Spreadsheet.Proofs.Builtin.Aggregate
import Spreadsheet.Proofs.Builtin.Order
import Spreadsheet.Proofs.Grid.Partition
import Spreadsheet.Proofs.Decimal.Pattern
import Spreadsheet.Proofs.Grid.Numbers
import Spreadsheet.Proofs.Evaluation.Ordering
import Spreadsheet.Proofs.Builtin.Lookup
import Spreadsheet.Proofs.Builtin.Approximate
import Spreadsheet.Proofs.Grid.Lookup
import Spreadsheet.Proofs.Range.Corners
import Spreadsheet.Proofs.Binary.Sums
import Spreadsheet.Proofs.Value.Count
import Spreadsheet.Proofs.Builtin.Average
import Spreadsheet.Proofs.Builtin.Extremes
import Spreadsheet.Proofs.Evaluation.Sums
import Spreadsheet.Proofs.Evaluation.Concatenation
import Spreadsheet.Proofs.Builtin.Trim
import Spreadsheet.Proofs.Binary.Truncation
import Spreadsheet.Proofs.Builtin.Excerpt
import Spreadsheet.Proofs.Grid.Quoting
import Spreadsheet.Proofs.Grid.Independence
import Spreadsheet.Proofs.Range.Counts
import Spreadsheet.Proofs.Formula.Lexeme
import Spreadsheet.Proofs.Formula.Descent
import Spreadsheet.Proofs.Formula.Termination
