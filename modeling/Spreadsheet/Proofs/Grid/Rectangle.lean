import Spreadsheet.Proofs.Evaluation.Allowance
import Spreadsheet.Proofs.Grid.Values

namespace Spreadsheet

namespace Grid

/-- A table with a row for each row of the rectangle and a column for each column, in which every
cell of the rectangle has its value. -/
structure Tabulates (grid : Grid) (range : Range) (rows : List (List Value)) : Prop where
  height : rows.length = range.rowCount.toNat
  width : ∀ row ∈ rows, row.length = range.columnCount.toNat
  entry : ∀ i < range.rowCount.toNat, ∀ j < range.columnCount.toNat, ∀ address : Address,
    address.row.toNat = range.first.row.toNat + i →
    address.column.toNat = range.first.column.toNat + j →
      (rows[i]?.bind fun row => row[j]?) = some (grid.typedCell address)
  flat : rows.flatten = range.cells.map grid.typedCell

theorem flatten_table (grid : Grid) (range : Range) :
    (grid.table range).flatten = range.cells.map grid.typedCell := by
  unfold table Range.cells
  rw [List.map_flatMap, List.flatMap_def]
  simp [Function.comp_def]

theorem tabulates_table (grid : Grid) {range : Range} (fits : range.Fits) :
    grid.Tabulates range (grid.table range) where
  height := by
    rw [fits.rowCount_eq]
    exact List.length_map _
  width row listed := by
    obtain ⟨_, -, rfl⟩ := List.mem_map.mp listed
    rw [fits.columnCount_eq]
    exact List.length_map _
  entry i below j left address row column := by
    rw [fits.rowCount_eq] at below
    rw [fits.columnCount_eq] at left
    unfold table
    rw [List.getElem?_map, Range.getElem?_rows below row, Option.map_some, Option.bind_some,
      List.getElem?_map, Range.getElem?_columns left column]
    rfl
  flat := grid.flatten_table range

/-- A rectangle is refused exactly if it has more cells than are left of the allowance. Otherwise
it is read as the table of its cells, one by one. The cells are listed row by row, each of them
once, and there are as many as are counted. -/
theorem meteredRange_exact (grid : Grid) {range : Range} (fits : range.Fits) (meter : Meter) :
    ((∃ cause, ((grid.meteredRange range).run meter).1 = .error (.invalidReference cause)) ↔
      meter.remaining < range.cellCount) ∧
    (range.cellCount ≤ meter.remaining → ∃ rows,
      ((grid.meteredRange range).run meter).1 = .ok (.array rows) ∧ grid.Tabulates range rows) ∧
    range.cells.Pairwise Address.Precedes ∧ range.cells.Nodup ∧
    range.cells.length = range.cellCount.toNat ∧
    ∀ address, address ∈ range.cells ↔
      address = .relative address.row address.column ∧
        range.Covers address.row address.column := by
  have reads := grid.source_range_run range meter
  change (grid.meteredRange range).run meter = _ at reads
  refine ⟨?_, ?_, range.sorted_cells, range.sorted_cells.nodup, fits.cellCount_eq.symm,
    fun _ => Range.mem_cells⟩
  · rw [reads]
    split
    next exceeds => exact iff_of_true ⟨_, rfl⟩ exceeds
    next covered => exact iff_of_false nofun covered
  · intro covered
    rw [reads, if_neg (UInt64.not_lt.mpr covered)]
    exact ⟨_, congrArg Except.ok (grid.typedRange_eq_table fits.evenRows),
      grid.tabulates_table fits⟩

/-- A row with all its cells, one that is short of a cell, and one that the grid lacks. -/
theorem meteredRange_exact_ragged :
    let grid : Grid := .ofValues [["1", "x"], ["2"]]
    let range : Range := .spanning (.relative 0 0) (.relative 2 1)
    range.Fits ∧ ∃ rows, ((grid.meteredRange range).run (.fresh 6)).1 = .ok (.array rows) ∧
      grid.Tabulates range rows := by
  intro grid range
  have fits : range.Fits := .of_inSheet ⟨by decide, by decide⟩ ⟨by decide, by decide⟩
  exact ⟨fits, (grid.meteredRange_exact fits (.fresh 6)).2.1 (by decide)⟩

end Grid

end Spreadsheet
