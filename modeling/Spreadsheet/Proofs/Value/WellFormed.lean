import Spreadsheet.Evaluation
import Spreadsheet.Proofs.Binary.Finite
import Spreadsheet.Proofs.Formula.Subtrees
import Spreadsheet.Proofs.Grid.Values

namespace Spreadsheet

open Spreadsheet.Formula

variable {α β : Type}

/-- A value, if there is one, is as `accepts` says. -/
def Gives (accepts : α → Prop) (result : Except FormulaError α) : Prop :=
  ∀ value, result = .ok value → accepts value

namespace Gives

variable {accepts : α → Prop} {expects : β → Prop}

theorem ok {value : α} (holds : accepts value) : Gives accepts (.ok value) := by
  rintro _ ⟨⟩
  exact holds

theorem error (cause : FormulaError) : Gives accepts (.error cause) := nofun

theorem any (result : Except FormulaError α) : Gives (fun _ => True) result :=
  fun _ _ => trivial

theorem bind {first : Except FormulaError α} {next : α → Except FormulaError β}
    (gives : Gives accepts first)
    (continues : ∀ value, accepts value → Gives expects (next value)) :
    Gives expects (first >>= next) := by
  cases first with
  | error cause => exact error cause
  | ok value => exact continues value (gives value rfl)

theorem after {next : α → Except FormulaError β} (first : Except FormulaError α)
    (continues : ∀ value, Gives expects (next value)) : Gives expects (first >>= next) :=
  (any first).bind fun value _ => continues value

end Gives

namespace Value

/-- What arrays hold: finite numbers, text that spells no number, and empty entries. -/
def IsEntry : Value → Prop
  | .number n => n.isFinite = true
  | .text s => s ≠ "" ∧ Decimal.readNumber? s.toList = none
  | .empty => True
  | _ => False

/-- At least one row and one column of entries. -/
structure IsTable (rows : List (List Value)) : Prop where
  filled : rows ≠ []
  rectangular : ∃ width, 0 < width ∧ ∀ row ∈ rows, row.length = width
  entries : ∀ row ∈ rows, ∀ entry ∈ row, entry.IsEntry

def WellFormed : Value → Prop
  | .number n => n.isFinite = true
  | .array rows => IsTable rows
  | _ => True

theorem IsEntry.wellFormed {value : Value} (entry : value.IsEntry) : value.WellFormed := by
  cases value with
  | number n => exact entry
  | array rows => exact entry.elim
  | text | boolean | empty => trivial

/-- Only an array has no text. -/
theorem WellFormed.toText_error {value : Value} (wellFormed : value.WellFormed)
    {error : FormulaError} (fails : value.toText = .error error) :
    value.isArray = true ∧ error = .type .arrayAsScalar := by
  cases value with
  | number n =>
      change (if n.isFinite = true then _ else _) = _ at fails
      rw [if_pos (show n.isFinite = true from wellFormed)] at fails
      cases fails
  | array rows =>
      cases fails
      exact ⟨rfl, rfl⟩
  | text | boolean | empty => cases fails

theorem isFinite_ofBool (b : Bool) : (ofBool b).isFinite = true := by
  cases b <;> decide

theorem isFinite_readNumber? {s : List Char} {n : Float}
    (reads : Decimal.readNumber? s = some n) : n.isFinite = true :=
  (Option.filter_eq_some_iff.mp reads).2

theorem WellFormed.isFinite {value : Value} {n : Float} (wellFormed : value.WellFormed)
    (reads : value.number? = some n) : n.isFinite = true := by
  cases value with
  | number m => exact Option.some.inj reads ▸ wellFormed
  | text s => exact isFinite_readNumber? reads
  | boolean b => exact Option.some.inj reads ▸ isFinite_ofBool b
  | empty => exact Option.some.inj reads ▸ by decide
  | array rows => cases reads

theorem toNumber_of_reads {value : Value} {n : Float} (reads : value.number? = some n) :
    value.toNumber = .ok n := by
  unfold Value.toNumber
  rw [reads]

/-- Only scalars are read as numbers. -/
theorem scalar_of_reads {value : Value} {n : Float} (reads : value.number? = some n) :
    value.isArray = false := by
  cases value with
  | array rows => cases reads
  | number | text | boolean | empty => rfl

theorem WellFormed.toNumber {value : Value} (wellFormed : value.WellFormed) :
    Gives (fun n => n.isFinite = true) value.toNumber := by
  intro n reads
  unfold Value.toNumber at reads
  split at reads
  next found => exact Except.ok.inj reads ▸ wellFormed.isFinite found
  next => cases reads
  next => cases reads

theorem finite_of_isFinite {n : Float} (isFinite : n.isFinite = true) :
    Value.finite n = .ok (.number n) := if_pos isFinite

theorem finite_of_not_isFinite {n : Float} (infinite : n.isFinite = false) :
    Value.finite n = .error (.numeric (.notFinite n)) := if_neg (ne_true_of_eq_false infinite)

theorem gives_finite (n : Float) : Gives WellFormed (finite n) := by
  unfold finite
  split
  next isFinite => exact .ok isFinite
  next => exact .error _

theorem WellFormed.scalar {value : Value} (wellFormed : value.WellFormed) :
    Gives WellFormed value.scalar := by
  unfold Value.scalar
  split
  next => exact .error _
  next => exact .ok wellFormed

theorem isEntry_ofCellText (s : String) : (ofCellText s).IsEntry := by
  unfold ofCellText
  split
  next => trivial
  next filled =>
    split
    next n reads => exact isFinite_readNumber? reads
    next none => exact ⟨fun same => filled (same ▸ rfl), none⟩

end Value

namespace Grid

variable (grid : Grid) {range : Range}

theorem wellFormed_typedRange (fits : range.Fits) : (grid.typedRange range).WellFormed := by
  rw [grid.typedRange_eq_table fits.evenRows]
  refine ⟨?_, ⟨range.columns.length, ?_, ?_⟩, ?_⟩
  · have top : range.first.row ∈ range.rows :=
      Range.mem_rows.mpr ⟨UInt32.le_refl _, fits.ordered.1⟩
    exact fun none => List.ne_nil_of_mem top (List.map_eq_nil_iff.mp none)
  · exact List.length_pos_of_mem (Range.mem_columns.mpr ⟨UInt16.le_refl _, fits.ordered.2⟩)
  · intro row listed
    obtain ⟨_, _, rfl⟩ := List.mem_map.mp listed
    exact List.length_map _
  · intro row listed entry member
    obtain ⟨_, _, rfl⟩ := List.mem_map.mp listed
    obtain ⟨_, _, rfl⟩ := List.mem_map.mp member
    exact Value.isEntry_ofCellText _

/-- Every entry that is read is one, also where the rows are not all as long. -/
theorem isEntry_typedRange {rows : List (List Value)}
    (reads : grid.typedRange range = .array rows) :
    ∀ row ∈ rows, ∀ entry ∈ row, entry.IsEntry := by
  obtain rfl := Value.array.inj reads
  rw [List.forall_mem_map]
  intro row _
  split
  next cells =>
    rw [typedRow_eq, List.forall_mem_map]
    exact fun column _ => Value.isEntry_ofCellText _
  next =>
    intro entry member
    rw [List.eq_of_mem_replicate member]
    trivial

end Grid

end Spreadsheet
