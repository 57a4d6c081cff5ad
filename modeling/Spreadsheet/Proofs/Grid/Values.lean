import Mathlib.Data.List.DropRight
import Mathlib.Tactic
import Spreadsheet.Grid.Typed
import Spreadsheet.Proofs.Range.Cells

namespace Spreadsheet

namespace Grid

theorem getD_putAt {α : Type} (blank : α) (put : α → α) (place : Nat) (items : List α) (i : Nat) :
    (putAt blank put place items)[i]?.getD blank =
      if i = place then put (items[place]?.getD blank) else items[i]?.getD blank := by
  induction place generalizing items i with
  | zero => cases items <;> cases i <;> simp [putAt]
  | succ place later => cases items <;> cases i <;> simp [putAt, later]

theorem getD_rdropWhile {α : Type} [BEq α] [LawfulBEq α] (blank : α) (items : List α) (i : Nat) :
    (items.rdropWhile (· == blank))[i]?.getD blank = items[i]?.getD blank := by
  induction items using List.reverseRecOn with
  | nil => rfl
  | append_singleton items last shorter =>
      by_cases trailing : last = blank
      · rw [List.rdropWhile_concat_pos (· == blank) _ _ (beq_iff_eq.mpr trailing), shorter,
          trailing]
        by_cases within : i < items.length
        · rw [List.getElem?_append_left within]
        · rw [List.getElem?_append_right (Nat.le_of_not_lt within),
            List.getElem?_eq_none (Nat.le_of_not_lt within)]
          cases i - items.length <;> rfl
      · rw [List.rdropWhile_concat_neg (· == blank) _ _ (by simpa using trailing)]

/-- The cell at a position, blank where there is none. -/
def cellAt (grid : Grid) (row : UInt32) (column : UInt16) : Cell :=
  (grid.cell? row column).getD Cell.blank

theorem cellAt_eq (grid : Grid) (row : UInt32) (column : UInt16) :
    grid.cellAt row column =
      (grid.rows[row.toNat]?.getD [])[column.toNat]?.getD Cell.blank := by
  unfold cellAt cell? row?
  cases grid.rows[row.toNat]? with
  | none => rfl
  | some cells => rfl

theorem cellAt_write (grid : Grid) (row place : UInt32) (column target : UInt16) (cell : Cell) :
    (grid.write place target cell).cellAt row column =
      if row = place ∧ column = target then cell else grid.cellAt row column := by
  rw [cellAt_eq, cellAt_eq]
  unfold write
  rw [getD_putAt]
  by_cases sameRow : row = place
  · subst sameRow
    rw [if_pos rfl, getD_putAt]
    by_cases sameColumn : column = target
    · subst sameColumn
      rw [if_pos rfl, if_pos ⟨rfl, rfl⟩]
    · rw [if_neg fun same => sameColumn (UInt16.toNat_inj.mp same),
        if_neg fun same => sameColumn same.2]
  · rw [if_neg fun same => sameRow (UInt32.toNat_inj.mp same),
      if_neg fun same => sameRow same.1]

theorem valueAt_eq_cellAt (grid : Grid) (row : UInt32) (column : UInt16) :
    grid.valueAt row column = (grid.cellAt row column).value := by
  unfold valueAt cellAt
  cases grid.cell? row column with
  | none => rfl
  | some cell => rfl

theorem valueAt_eq (grid : Grid) (row : UInt32) (column : UInt16) :
    grid.valueAt row column =
      ((grid.rows[row.toNat]?.getD [])[column.toNat]?.getD Cell.blank).value := by
  rw [valueAt_eq_cellAt, cellAt_eq]

theorem valueAt_write (grid : Grid) (row place : UInt32) (column target : UInt16) (cell : Cell) :
    (grid.write place target cell).valueAt row column =
      if row = place ∧ column = target then cell.value else grid.valueAt row column := by
  rw [valueAt_eq_cellAt, valueAt_eq_cellAt, cellAt_write, apply_ite Cell.value]

/-- What a grid shows: the texts of its cells, without blank ones at the end of a row and without
rows that are left with none at the end. -/
def shown (grid : Grid) : List (List String) :=
  (grid.rows.map fun cells => (cells.map Cell.value).rdropWhile (· == "")).rdropWhile (· == [])

theorem valueAt_eq_shown (grid : Grid) (row : UInt32) (column : UInt16) :
    grid.valueAt row column = (grid.shown[row.toNat]?.getD [])[column.toNat]?.getD "" := by
  rw [valueAt_eq, shown, getD_rdropWhile, List.getElem?_map]
  cases grid.rows[row.toNat]? with
  | none => rfl
  | some cells =>
      change _ = ((cells.map Cell.value).rdropWhile (· == ""))[column.toNat]?.getD ""
      rw [getD_rdropWhile, List.getElem?_map]
      change (cells[column.toNat]?.getD Cell.blank).value = _
      cases cells[column.toNat]? <;> rfl

theorem typedRow_eq (cells : List Cell) (columns : List UInt16) :
    typedRow cells columns =
      columns.map fun column => .ofCellText (cells[column.toNat]?.getD Cell.blank).value := by
  unfold typedRow
  refine List.map_congr_left fun column _ => ?_
  cases cells[column.toNat]? <;> rfl

/-- The values of a rectangle, row by row. -/
def table (grid : Grid) (range : Range) : List (List Value) :=
  range.rows.map fun row => range.columns.map fun column => grid.typedCell (.relative row column)

/-- What is read is the table of the cells, if rows are counted as long as they are. -/
theorem typedRange_eq_table (grid : Grid) {range : Range} (even : range.EvenRows) :
    grid.typedRange range = .array (grid.table range) := by
  unfold typedRange table
  refine congrArg Value.array (List.map_congr_left fun row inRows => ?_)
  unfold typedCell Address.relative
  simp only [valueAt_eq, row?]
  cases grid.rows[row.toNat]? with
  | none =>
      rw [even (List.ne_nil_of_mem inRows)]
      exact List.map_const'.symm
  | some cells => exact typedRow_eq cells range.columns

end Grid

end Spreadsheet
