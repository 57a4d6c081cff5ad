import Mathlib.Data.List.Basic
import Spreadsheet.Builtin.Apply

/-! Functions of all entries of their arguments. It does not count in which tables the entries
stand, nor do the empty ones count. -/

namespace Spreadsheet

/-- The functions that take any number of tables. -/
def Strict.aggregates : List Strict :=
  [.sum, .average, .count, .counta, .max, .min, .concatenate, .and, .or]

/-- The entries of some tables that are not empty, in the order of reading. -/
def filledEntries (tables : List (List (List Value))) : List Value :=
  (tables.flatMap List.flatten).filter (!·.isEmpty)

/-- What an entry of a table counts as where truth values are wanted. -/
def Value.truth? : Value → Option Bool
  | .number n => some (n != 0)
  | .boolean b => some b
  | _ => none

section Empty

variable {α : Type} {convert : Value → Option α} (skips : convert .empty = none)

include skips

theorem filterMap_filled (entries : List Value) :
    (entries.filter (!·.isEmpty)).filterMap convert = entries.filterMap convert := by
  rw [List.filterMap_filter]
  congr 1
  funext entry
  cases entry with
  | empty => exact skips.symm
  | number | text | boolean | array => rfl

theorem filterMap_filledEntries (tables : List (List (List Value))) :
    (filledEntries tables).filterMap convert = (tables.flatMap List.flatten).filterMap convert :=
  filterMap_filled skips _

end Empty

theorem filledEntries_row (tables : List (List (List Value))) :
    filledEntries [[filledEntries tables]] = filledEntries tables := by
  unfold filledEntries
  simp

theorem entriesOf_tables (tables : List (List (List Value))) :
    entriesOf (tables.map .array) = tables.flatMap List.flatten :=
  List.flatMap_map ..

theorem numericEntries_tables (tables : List (List (List Value))) :
    numericEntries (tables.map .array) = (filledEntries tables).filterMap Value.numericEntry? := by
  unfold numericEntries
  rw [entriesOf_tables, filterMap_filledEntries rfl]

namespace Aggregate

/-- The texts of entries one behind another. -/
def joined (entries : List Value) : Except FormulaError String :=
  String.join <$> entries.mapM Value.toText

theorem joined_cons (entry : Value) (entries : List Value) :
    joined (entry :: entries) = do return (← entry.toText) ++ (← joined entries) := by
  unfold joined
  rw [List.mapM_cons]
  simp [String.join_cons]

/-- An empty entry has the empty text. -/
theorem joined_filter (entries : List Value) :
    joined (entries.filter (!·.isEmpty)) = joined entries := by
  induction entries with
  | nil => rfl
  | cons entry others ih =>
      cases entry with
      | empty =>
          have text : Value.empty.toText = .ok "" := rfl
          rw [joined_cons, text, ← ih]
          change joined (others.filter _) = do return "" ++ (← joined (others.filter _))
          simp
      | number | text | boolean | array =>
          change joined (_ :: others.filter _) = _
          rw [joined_cons, joined_cons, ih]

theorem concatenate_tables (tables : List (List (List Value))) :
    concatenate (tables.map .array) = .text <$> joined (filledEntries tables) := by
  unfold concatenate filledEntries
  rw [joined_filter, entriesOf_tables]
  unfold joined
  simp only [map_eq_pure_bind, bind_assoc, pure_bind]

theorem truthValues_array (function : Strict) (rows : List (List Value)) :
    truthValues function (.array rows) = .ok (rows.flatten.filterMap Value.truth?) := by
  refine congrArg Except.ok (List.filterMap_congr fun entry _ => ?_)
  cases entry <;> rfl

theorem allTruthValues_tables (function : Strict) (tables : List (List (List Value))) :
    allTruthValues function (tables.map .array) =
      if ((filledEntries tables).filterMap Value.truth?).isEmpty then
        .error (.type (.noLogicalValue function.name))
      else .ok ((filledEntries tables).filterMap Value.truth?) := by
  have found : (tables.map .array).mapM (truthValues function) =
      .ok (tables.map fun rows => rows.flatten.filterMap Value.truth?) := by
    rw [List.mapM_map]
    simp only [Function.comp_def, truthValues_array]
    exact List.mapM_pure
  have truths : (tables.map fun rows => rows.flatten.filterMap Value.truth?).flatten =
      (filledEntries tables).filterMap Value.truth? := by
    rw [filterMap_filledEntries rfl, List.filterMap_flatMap, List.flatMap_def]
  unfold allTruthValues
  rw [found]
  change (if (List.flatten _).isEmpty then _ else _) = _
  rw [truths]
  rfl

/-- Whatever tables the entries stand in, the result is that of one row of the filled ones. -/
theorem apply_tables {f : Strict} (aggregate : f ∈ Strict.aggregates)
    (tables : List (List (List Value))) :
    f.apply (tables.map .array) = f.apply ([[filledEntries tables]].map .array) := by
  have numbers : numericEntries (tables.map .array) =
      numericEntries ([[filledEntries tables]].map .array) := by
    rw [numericEntries_tables, numericEntries_tables, filledEntries_row]
  have truths (function : Strict) : allTruthValues function (tables.map .array) =
      allTruthValues function ([[filledEntries tables]].map .array) := by
    rw [allTruthValues_tables, allTruthValues_tables, filledEntries_row]
  have counted : (entriesOf (tables.map .array)).filter (!·.isEmpty) =
      (entriesOf ([[filledEntries tables]].map .array)).filter (!·.isEmpty) := by
    rw [entriesOf_tables, entriesOf_tables]
    exact (filledEntries_row tables).symm
  cases f with
  | sum | average | count | max | min =>
      simp only [Strict.apply, sum, average, count, max, min, reduce, numbers]
  | counta => simp only [Strict.apply, countFilled, counted]
  | and | or => simp only [Strict.apply, and, or, truths]
  | concatenate =>
      change concatenate _ = concatenate _
      rw [concatenate_tables, concatenate_tables, filledEntries_row]
  | abs | round | mod | not | vlookup | hlookup | left | right | mid | len | upper | lower | trim =>
      exact absurd aggregate (by decide)

theorem apply_congr {f : Strict} (aggregate : f ∈ Strict.aggregates)
    {tables others : List (List (List Value))}
    (same : filledEntries tables = filledEntries others) :
    f.apply (tables.map .array) = f.apply (others.map .array) := by
  rw [apply_tables aggregate, apply_tables aggregate others, same]

end Aggregate

end Spreadsheet
