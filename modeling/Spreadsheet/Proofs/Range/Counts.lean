import Spreadsheet.Proofs.Grid.Rectangle
import Spreadsheet.Proofs.Grid.Used
import Spreadsheet.Proofs.Range.Corners
import Spreadsheet.Proofs.Snapshot.RoundTrip

/-! Counts of rows, columns and cells, and the ways to come by a rectangle. The counts are right
just if the corners stand in order and the words can hold them. Only snapshots bring in corners
that do not stand in order. -/

namespace Spreadsheet

namespace Range

/-- The corners stand in order, and there are as many rows, columns and cells between them as the
counts say. -/
structure Faithful (range : Range) : Prop where
  ordered : range.Ordered
  rows : range.rowCount.toNat = range.rows.length
  columns : range.columnCount.toNat = range.columns.length
  cells : range.cellCount.toNat = range.cells.length

variable {range : Range}

theorem fits_iff : range.Fits ↔ range.Ordered ∧ ¬ range.AllRows ∧ ¬ range.AllColumns := by
  have row := range.last.row.toNat_lt
  have column := range.last.column.toNat_lt
  have rows (ordered : range.Ordered) :
      range.last.row.toNat - range.first.row.toNat + 1 < UInt32.size ↔ ¬ range.AllRows := by
    have below := UInt32.le_iff_toNat_le.mp ordered.1
    unfold AllRows
    change _ < 4294967296 ↔ ¬ (_ ∧ _ = 4294967296)
    omega
  have columns (ordered : range.Ordered) :
      range.last.column.toNat - range.first.column.toNat + 1 < UInt16.size ↔
        ¬ range.AllColumns := by
    have below := UInt16.le_iff_toNat_le.mp ordered.2
    unfold AllColumns
    change _ < 65536 ↔ ¬ (_ ∧ _ = 65536)
    omega
  constructor
  · rintro ⟨ordered, tall, wide⟩
    exact ⟨ordered, (rows ordered).mp tall, (columns ordered).mp wide⟩
  · rintro ⟨ordered, tall, wide⟩
    exact ⟨ordered, (rows ordered).mpr tall, (columns ordered).mpr wide⟩

theorem Fits.faithful (fits : range.Fits) : range.Faithful :=
  ⟨fits.ordered, fits.rowCount_eq, fits.columnCount_eq, fits.cellCount_eq⟩

/-- A count that is right is a word, so the words can hold it. -/
theorem Faithful.fits (faithful : range.Faithful) : range.Fits := by
  have rows := faithful.rows ▸ range.rowCount.toNat_lt
  have columns := faithful.columns ▸ range.columnCount.toNat_lt
  have below := UInt32.le_iff_toNat_le.mp faithful.ordered.1
  have left := UInt16.le_iff_toNat_le.mp faithful.ordered.2
  rw [length_rows] at rows
  rw [length_columns] at columns
  refine ⟨faithful.ordered, ?_, ?_⟩
  · change _ < 4294967296
    omega
  · change _ < 65536
    omega

theorem faithful_iff : range.Faithful ↔ range.Ordered ∧ ¬ range.AllRows ∧ ¬ range.AllColumns :=
  ⟨fun faithful => fits_iff.mp faithful.fits, fun fits => (fits_iff.mpr fits).faithful⟩

theorem faithful_of_inSheet (ordered : range.Ordered) (inside : range.last.InSheet) :
    range.Faithful := (Fits.of_inSheet ordered inside).faithful

theorem columnCount_of_allColumns (all : range.AllColumns) : range.columnCount = 0 := by
  obtain ⟨first, last⟩ := all
  have first' : range.first.column = 0 := UInt16.toNat_inj.mp first
  have last' : range.last.column + 1 = 0 := by
    rw [← UInt16.toNat_inj, UInt16.toNat_add]
    change (_ + 1) % 65536 = 0
    change _ = 65536 at last
    rw [last]
  unfold columnCount
  rw [first', UInt16.sub_zero, last']

theorem faithful_of_read {s : List Char} (reads : read s = .ok range) : range.Faithful := by
  have sound : (Formula.Expr.range range).IsSound := by
    cases read_eq_ok_iff.mp reads with
    | one names =>
        exact sound_spanning (Address.inSheet_of_read names) (Address.inSheet_of_read names)
    | two left right =>
        exact sound_spanning (Address.inSheet_of_read left) (Address.inSheet_of_read right)
  exact faithful_of_inSheet sound.1 sound.2.2

end Range

namespace Grid

variable {grid : Grid} {range : Range}

theorem ordered_of_usedRange (used : grid.usedRange = some range) : range.Ordered := by
  unfold usedRange at used
  split at used
  next => cases used
  next => exact Option.some.inj used ▸ Range.ordered_spanning _ _

/-- The last row and the last column are those of cells that show something. -/
theorem faithful_of_usedRange (used : grid.usedRange = some range)
    (inSheet : ∀ row column, grid.Shows row column → row < rowLimit ∧ column < columnLimit) :
    range.Faithful := by
  have addressable : grid.Addressable := fun row column shown =>
    ⟨(inSheet row column shown).1.trans (by decide), (inSheet row column shown).2.trans (by decide)⟩
  have encloses := encloses_of_usedRange addressable used
  obtain ⟨column, bottom⟩ := encloses.bottom
  obtain ⟨row, right⟩ := encloses.right
  exact Range.faithful_of_inSheet (ordered_of_usedRange used)
    ⟨(inSheet _ column bottom).1, (inSheet row _ right).2⟩

end Grid

namespace Range

/-- The corners of a rectangle stand in order and its counts are right exactly when it does not
have all rows or all columns that addresses can name, and its corners do stand in order. These do
whenever the rectangle is made from two corners, read from a text or the one in use; read from a
text, or in use within the sheet, its counts are right as well. A snapshot gives its corners as
they are: each rectangle whatever is read from one. -/
theorem counts_exact (range : Range) :
    (range.Faithful ↔ range.Ordered ∧ ¬ range.AllRows ∧ ¬ range.AllColumns) ∧
      (∀ a b : Address, range = spanning a b → range.Ordered) ∧
      (∀ s : List Char, read s = .ok range → range.Faithful) ∧
      (∀ grid : Grid, grid.usedRange = some range →
        range.Ordered ∧
          ((∀ row column, grid.Shows row column → row < rowLimit ∧ column < columnLimit) →
            range.Faithful)) ∧
      Snapshot.range.read? (Snapshot.range.write range) = some range := by
  refine ⟨faithful_iff, ?_, fun _ => faithful_of_read,
    fun _ used => ⟨Grid.ordered_of_usedRange used, Grid.faithful_of_usedRange used⟩,
    Snapshot.read?_write_of_restores range.restores⟩
  rintro a b rfl
  exact ordered_spanning a b

/-- The whole sheet, from crossed corners. -/
theorem counts_exact_sheet :
    read "A1048576:XFD1".toList = .ok ⟨.relative 0 0, .relative 1048575 16383⟩ ∧
      (⟨.relative 0 0, .relative 1048575 16383⟩ : Range).Faithful ∧
      (⟨.relative 0 0, .relative 1048575 16383⟩ : Range).cellCount = 17179869184 := by
  have reads :
      read "A1048576:XFD1".toList = .ok ⟨.relative 0 0, .relative 1048575 16383⟩ := by cbv
  exact ⟨reads, (counts_exact _).2.2.1 _ reads, by decide⟩

/-- A snapshot whose first corner stands below its last one, and a row of one column more than a
word can count. -/
theorem counts_wrong :
    Snapshot.range.read? "[[5,0,false,false],[0,0,false,false]]" =
        some ⟨.relative 5 0, .relative 0 0⟩ ∧
      ¬ (⟨.relative 5 0, .relative 0 0⟩ : Range).Ordered ∧
      (spanning (.relative 0 0) (.relative 0 65535)).columnCount = 0 ∧
      ¬ (spanning (.relative 0 0) (.relative 0 65535)).Faithful := by
  let corner (row column : Nat) : Json :=
    .array [.ofNat row, .ofNat column, .boolean false, .boolean false]
  have spelled (row column : Nat) : (corner row column).Spelled := by
    refine .array ?_
    simp only [List.forall_mem_cons]
    exact ⟨Json.spelled_ofNat row, Json.spelled_ofNat column, .boolean false, .boolean false, nofun⟩
  have document : (Json.array [corner 5 0, corner 0 0]).Spelled :=
    .array (List.forall_mem_cons.mpr ⟨spelled 5 0, List.forall_mem_singleton.mpr (spelled 0 0)⟩)
  have printed : "[[5,0,false,false],[0,0,false,false]]".toList =
      (Json.array [corner 5 0, corner 0 0]).print := by cbv
  have inverted : Snapshot.range.read? "[[5,0,false,false],[0,0,false,false]]" =
      some ⟨.relative 5 0, .relative 0 0⟩ := by
    unfold Snapshot.read?
    rw [printed, Json.read?_print document]
    rfl
  exact ⟨inverted, fun ordered => absurd ordered.1 (by decide),
    columnCount_of_allColumns ⟨rfl, rfl⟩, fun faithful => (faithful_iff.mp faithful).2.2 ⟨rfl, rfl⟩⟩

end Range

end Spreadsheet
