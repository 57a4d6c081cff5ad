import Spreadsheet.Builtin.Apply
import Spreadsheet.Proofs.Value.Order

namespace Spreadsheet

namespace FormulaError

/-- The same error of another function. -/
def naming (function : String) : FormulaError → FormulaError
  | .argumentCount _ expected actual => .argumentCount function expected actual
  | .invalidReference (.indexOutside _ index size) =>
    .invalidReference (.indexOutside function index size)
  | .type (.notLogical _ text) => .type (.notLogical function text)
  | .type (.noLogicalValue _) => .type (.noLogicalValue function)
  | .type (.noTable _) => .type (.noTable function)
  | .type (.indexBelowOne _ index) => .type (.indexBelowOne function index)
  | .type (.negativeCount _ count) => .type (.negativeCount function count)
  | .notAvailable _ value => .notAvailable function value
  | error => error

/-- It is an error of the same kind. -/
theorem tag_naming (function : String) (error : FormulaError) :
    (error.naming function).tag = error.tag := by
  unfold naming
  split <;> rfl

end FormulaError

namespace Lookup

open FormulaError (naming)

/-- What a look-up answers once its arguments are read. -/
def answer (direction : Direction) (rows : List (List Value)) (value : Value) (approximate : Bool)
    (line : Nat) : Except FormulaError Value :=
  match find approximate (keys direction rows) value with
  | some key => .ok (result direction rows key line)
  | none => .error (.notAvailable direction.function.name value)

theorem apply_function (direction : Direction) (args : List Value) :
    direction.function.apply args = lookup direction args := by
  cases direction <;> rfl

/-- Arguments are read in their order, and the index is checked when all of them are read. -/
theorem apply_arguments (direction : Direction) (rows : List (List Value)) (value index : Value)
    (flag : Option Value) :
    direction.function.apply (value :: .array rows :: index :: flag.toList) = (do
      let value ← value.scalar
      let index ← index.toInteger
      let approximate ← (flag.map Value.toBool).getD (.ok false)
      let line ← lineAt direction.function index (depth direction rows)
      answer direction rows value approximate line) := by
  rw [apply_function]
  unfold lookup answer
  cases flag <;> rfl

theorem apply_scalar (direction : Direction) (rows : List (List Value)) {value : Value}
    (scalar : value.isArray = false) (index : Value) (flag : Option Value) {approximate : Bool}
    (chosen : (flag.map Value.toBool).getD (.ok false) = .ok approximate) :
    direction.function.apply (value :: .array rows :: index :: flag.toList) = (do
      let index ← index.toInteger
      let line ← lineAt direction.function index (depth direction rows)
      answer direction rows value approximate line) := by
  rw [apply_arguments, Value.scalar_eq scalar, chosen]
  rfl

theorem lineAt_of_lt (function : Strict) {line size : Nat} (inside : line < size) :
    lineAt function (line + 1) size = .ok line := by
  have exact : ((line : Int) + 1 - 1).toNat = line := by omega
  unfold lineAt
  rw [exact, if_neg (by omega), if_neg (by omega)]

/-- At least one row and one column, and every row as long as the others. -/
structure Rectangular (rows : List (List Value)) : Prop where
  filled : rows ≠ []
  uniform : ∃ width, 0 < width ∧ ∀ row ∈ rows, row.length = width

/-- The columns of a table, as many as the first row has. -/
def transpose (rows : List (List Value)) : List (List Value) :=
  (List.range (firstRow rows).length).map fun column => rows.map (entry · column)

theorem Rectangular.length_row {rows : List (List Value)} (rectangular : Rectangular rows) :
    0 < (firstRow rows).length ∧ ∀ row ∈ rows, row.length = (firstRow rows).length := by
  obtain ⟨filled, width, positive, uniform⟩ := rectangular
  obtain ⟨first, others, rfl⟩ := List.exists_cons_of_ne_nil filled
  have firstLength : first.length = width := uniform first List.mem_cons_self
  change 0 < first.length ∧ ∀ row ∈ first :: others, row.length = first.length
  rw [firstLength]
  exact ⟨positive, uniform⟩

section Transpose

variable {rows : List (List Value)} (rectangular : Rectangular rows)

include rectangular

theorem keys_transpose : keys .across (transpose rows) = keys .down rows := by
  have positive := rectangular.length_row.1
  change ((List.range _).map _).head?.getD [] = rows.map (entry · 0)
  rw [List.head?_map, List.head?_range, if_neg positive.ne']
  rfl

omit rectangular in
theorem depth_transpose (rows : List (List Value)) :
    depth .across (transpose rows) = depth .down rows := by
  simp [depth, transpose]

theorem result_transpose (key line : Nat) :
    result .across (transpose rows) key line = result .down rows key line := by
  obtain ⟨-, uniform⟩ := rectangular.length_row
  change entry ((transpose rows)[line]?.getD []) key = entry (rows[key]?.getD []) line
  by_cases inside : line < (firstRow rows).length
  · have column : (transpose rows)[line]? = some (rows.map (entry · line)) := by
      simp [transpose, inside]
    rw [column]
    change (rows.map (entry · line))[key]?.getD .empty = _
    rw [List.getElem?_map]
    cases rows[key]? <;> rfl
  · have column : (transpose rows)[line]? = none := by
      simp [transpose, not_lt.mp inside]
    rw [column]
    cases found : rows[key]? with
    | none => rfl
    | some row =>
        have short := uniform row (List.mem_of_getElem? found)
        change Value.empty = row[line]?.getD .empty
        rw [List.getElem?_eq_none (by omega)]
        rfl

theorem answer_transpose (value : Value) (approximate : Bool) (line : Nat) :
    answer .across (transpose rows) value approximate line =
      (answer .down rows value approximate line).mapError (naming Strict.hlookup.name) := by
  unfold answer
  rw [keys_transpose rectangular]
  split
  next key _ => rw [result_transpose rectangular]; rfl
  next => rfl

end Transpose

theorem naming_scalar (function : String) (value : Value) :
    value.scalar.mapError (naming function) = value.scalar := by
  unfold Value.scalar
  split <;> rfl

theorem naming_toInteger (function : String) (value : Value) :
    value.toInteger.mapError (naming function) = value.toInteger := by
  unfold Value.toInteger Value.toNumber
  split <;> rfl

theorem naming_toBool (function : String) (value : Value) :
    value.toBool.mapError (naming function) = value.toBool := by
  cases value <;> rfl

theorem naming_lineAt (function other : Strict) (index : Int) (size : Nat) :
    (lineAt function index size).mapError (naming other.name) = lineAt other index size := by
  unfold lineAt
  split
  next => rfl
  next => split <;> rfl

theorem mapError_bind {α β : Type} (f : FormulaError → FormulaError) (first : Except FormulaError α)
    (next : α → Except FormulaError β) :
    (first >>= next).mapError f = first.mapError f >>= fun value => (next value).mapError f := by
  cases first <;> rfl

/-- A look-up across the columns of a table is one down its rows, in what it finds and in why it
fails, but for the name of the function. So a cell shows the same tag for it, by
`FormulaError.tag_naming`. -/
theorem across_transpose {rows : List (List Value)} (rectangular : Rectangular rows)
    (value index : Value) (flag : Option Value) :
    Strict.hlookup.apply (value :: .array (transpose rows) :: index :: flag.toList) =
      (Strict.vlookup.apply (value :: .array rows :: index :: flag.toList)).mapError
        (naming Strict.hlookup.name) := by
  have flags : ((flag.map Value.toBool).getD (.ok false)).mapError (naming Strict.hlookup.name) =
      (flag.map Value.toBool).getD (.ok false) := by
    cases flag with
    | none => rfl
    | some flag => exact naming_toBool _ flag
  have down := apply_arguments .down rows value index flag
  have across := apply_arguments .across (transpose rows) value index flag
  change Strict.vlookup.apply _ = _ at down
  change Strict.hlookup.apply _ = _ at across
  rw [down, across]
  simp only [mapError_bind, naming_scalar, naming_toInteger, flags, naming_lineAt _ .hlookup,
    depth_transpose, answer_transpose rectangular, Direction.function]

/-- Three rows of two entries as two rows of three. -/
theorem across_transpose_three :
    let rows : List (List Value) := [[.text "a", .number 1], [.text "b", .number 2],
      [.text "c", .number 3]]
    Rectangular rows ∧
    transpose rows = [[.text "a", .text "b", .text "c"], [.number 1, .number 2, .number 3]] ∧
    Strict.hlookup.apply [.text "b", .array (transpose rows), .number 3] =
      (Strict.vlookup.apply [.text "b", .array rows, .number 3]).mapError
        (naming Strict.hlookup.name) := by
  intro rows
  have rectangular : Rectangular rows :=
    ⟨List.cons_ne_nil _ _, 2, Nat.zero_lt_two, by simp [rows]⟩
  exact ⟨rectangular, rfl, across_transpose rectangular (.text "b") (.number 3) none⟩

end Lookup

end Spreadsheet
