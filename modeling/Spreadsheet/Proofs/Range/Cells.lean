import Spreadsheet.Proofs.Formula.Subtrees

/-! Rows, columns and cells of rectangles: which they are, in which order, and how many. -/

namespace Spreadsheet

/-- The order of reading: row by row, and each row from the left. -/
def Address.Precedes (a b : Address) : Prop :=
  a.row < b.row ∨ a.row = b.row ∧ a.column < b.column

namespace Address

instance : Std.Irrefl Precedes where
  irrefl address before := by
    rcases before with row | ⟨-, column⟩
    · exact UInt32.lt_irrefl _ row
    · exact UInt16.lt_irrefl _ column

instance : Std.Antisymm Precedes where
  antisymm a b before after := by
    rcases before with row | ⟨same, column⟩
    · rcases after with row' | ⟨same, -⟩
      · exact absurd row' (UInt32.lt_asymm row)
      · exact absurd row (same ▸ UInt32.lt_irrefl _)
    · rcases after with row' | ⟨-, column'⟩
      · exact absurd row' (same ▸ UInt32.lt_irrefl _)
      · exact absurd column' (UInt16.lt_asymm column)

end Address

namespace Range

variable {range : Range}

def Covers (range : Range) (row : UInt32) (column : UInt16) : Prop :=
  (range.first.row ≤ row ∧ row ≤ range.last.row) ∧
    range.first.column ≤ column ∧ column ≤ range.last.column

theorem mem_rows {row : UInt32} :
    row ∈ range.rows ↔ range.first.row ≤ row ∧ row ≤ range.last.row := by
  unfold rows
  rw [List.mem_map, UInt32.le_iff_toNat_le, UInt32.le_iff_toNat_le]
  constructor
  · rintro ⟨n, listed, rfl⟩
    have bound := range.last.row.toNat_lt
    rw [List.mem_range'_1] at listed
    rw [UInt32.toNat_ofNat_of_lt' (by simp only [UInt32.size]; omega)]
    omega
  · intro between
    exact ⟨row.toNat, List.mem_range'_1.mpr (by omega), UInt32.ofNat_toNat⟩

theorem mem_columns {column : UInt16} :
    column ∈ range.columns ↔ range.first.column ≤ column ∧ column ≤ range.last.column := by
  unfold columns
  rw [List.mem_map, UInt16.le_iff_toNat_le, UInt16.le_iff_toNat_le]
  constructor
  · rintro ⟨n, listed, rfl⟩
    have bound := range.last.column.toNat_lt
    rw [List.mem_range'_1] at listed
    rw [UInt16.toNat_ofNat_of_lt' (by simp only [UInt16.size]; omega)]
    omega
  · intro between
    exact ⟨column.toNat, List.mem_range'_1.mpr (by omega), UInt16.ofNat_toNat⟩

/-- From the first row that an address can name to the last one. -/
def AllRows (range : Range) : Prop :=
  range.first.row.toNat = 0 ∧ range.last.row.toNat + 1 = UInt32.size

def AllColumns (range : Range) : Prop :=
  range.first.column.toNat = 0 ∧ range.last.column.toNat + 1 = UInt16.size

instance (range : Range) : Decidable range.AllColumns := inferInstanceAs (Decidable (_ ∧ _))

/-- There are cells between the corners, and the words that count rows and columns can hold how
many. -/
structure Fits (range : Range) : Prop where
  ordered : range.Ordered
  rows : range.last.row.toNat - range.first.row.toNat + 1 < UInt32.size
  columns : range.last.column.toNat - range.first.column.toNat + 1 < UInt16.size

theorem Fits.of_inSheet (ordered : range.Ordered) (inside : range.last.InSheet) : range.Fits := by
  obtain ⟨row, column⟩ := inside
  change _ < 1048576 at row
  change _ < 16384 at column
  refine ⟨ordered, ?_, ?_⟩
  · change _ < 4294967296
    omega
  · change _ < 65536
    omega

@[simp] theorem length_rows (range : Range) :
    range.rows.length = range.last.row.toNat + 1 - range.first.row.toNat := by
  simp [rows]

@[simp] theorem length_columns (range : Range) :
    range.columns.length = range.last.column.toNat + 1 - range.first.column.toNat := by
  simp [columns]

theorem getElem?_rows {i : Nat} {row : UInt32} (inside : i < range.rows.length)
    (place : row.toNat = range.first.row.toNat + i) : range.rows[i]? = some row := by
  rw [length_rows] at inside
  unfold rows
  rw [List.getElem?_map, List.getElem?_range' inside, Nat.one_mul, ← place]
  exact congrArg some UInt32.ofNat_toNat

theorem getElem?_columns {i : Nat} {column : UInt16} (inside : i < range.columns.length)
    (place : column.toNat = range.first.column.toNat + i) :
    range.columns[i]? = some column := by
  rw [length_columns] at inside
  unfold columns
  rw [List.getElem?_map, List.getElem?_range' inside, Nat.one_mul, ← place]
  exact congrArg some UInt16.ofNat_toNat

theorem sorted_rows (range : Range) : range.rows.Pairwise (· < ·) := by
  unfold rows
  rw [List.pairwise_map]
  refine List.Pairwise.imp_of_mem ?_ (List.pairwise_lt_range' 1)
  intro m n _ listed below
  have bound := range.last.row.toNat_lt
  rw [List.mem_range'_1] at listed
  exact UInt32.ofNat_lt_iff_lt (by simp only [UInt32.size]; omega)
    (by simp only [UInt32.size]; omega) |>.mpr below

theorem sorted_columns (range : Range) : range.columns.Pairwise (· < ·) := by
  unfold columns
  rw [List.pairwise_map]
  refine List.Pairwise.imp_of_mem ?_ (List.pairwise_lt_range' 1)
  intro m n _ listed below
  have bound := range.last.column.toNat_lt
  rw [List.mem_range'_1] at listed
  exact UInt16.ofNat_lt_iff_lt (by simp only [UInt16.size]; omega)
    (by simp only [UInt16.size]; omega) |>.mpr below

theorem mem_cells {address : Address} :
    address ∈ range.cells ↔
      address = .relative address.row address.column ∧ range.Covers address.row address.column := by
  unfold cells Covers
  simp only [List.mem_flatMap, List.mem_map, mem_rows, mem_columns]
  constructor
  · rintro ⟨row, inRows, column, inColumns, rfl⟩
    exact ⟨rfl, inRows, inColumns⟩
  · rintro ⟨unmarked, inRows, inColumns⟩
    exact ⟨_, inRows, _, inColumns, unmarked.symm⟩

theorem sorted_cells (range : Range) : range.cells.Pairwise Address.Precedes := by
  unfold cells
  rw [List.pairwise_flatMap]
  constructor
  · intro row _
    rw [List.pairwise_map]
    exact range.sorted_columns.imp fun before => .inr ⟨rfl, before⟩
  · refine range.sorted_rows.imp fun before => ?_
    intro x inFirst y inSecond
    obtain ⟨_, _, rfl⟩ := List.mem_map.mp inFirst
    obtain ⟨_, _, rfl⟩ := List.mem_map.mp inSecond
    exact .inl before

@[simp] theorem length_cells (range : Range) :
    range.cells.length = range.rows.length * range.columns.length := by
  unfold cells
  simp [List.length_flatMap]

namespace Fits

variable (fits : range.Fits)

include fits

theorem rowCount_eq : range.rowCount.toNat = range.rows.length := by
  obtain ⟨⟨ordered, -⟩, bound, -⟩ := fits
  have below := UInt32.le_iff_toNat_le.mp ordered
  unfold rowCount
  rw [UInt32.toNat_add, UInt32.toNat_sub_of_le _ _ ordered, length_rows]
  change (_ + 1) % 4294967296 = _
  change _ < 4294967296 at bound
  omega

theorem columnCount_eq : range.columnCount.toNat = range.columns.length := by
  obtain ⟨⟨-, ordered⟩, -, bound⟩ := fits
  have below := UInt16.le_iff_toNat_le.mp ordered
  unfold columnCount
  rw [UInt16.toNat_add, UInt16.toNat_sub_of_le _ _ ordered, length_columns]
  change (_ + 1) % 65536 = _
  change _ < 65536 at bound
  omega

theorem cellCount_eq : range.cellCount.toNat = range.cells.length := by
  have rows := range.rowCount.toNat_lt
  have columns := range.columnCount.toNat_lt
  have product : range.rowCount.toNat * range.columnCount.toNat < 2 ^ 64 :=
    calc range.rowCount.toNat * range.columnCount.toNat
      _ < 2 ^ 32 * 2 ^ 16 := Nat.mul_lt_mul'' rows columns
      _ < 2 ^ 64 := by decide
  unfold cellCount
  rw [UInt64.toNat_mul, UInt32.toNat_toUInt64, UInt16.toNat_toUInt64, Nat.mod_eq_of_lt product,
    fits.rowCount_eq, fits.columnCount_eq, length_cells]

end Fits

/-- If there are rows between the corners, as many columns are counted as lie between them. Then no
row that is read is longer than another, whether a grid has it or not. -/
def EvenRows (range : Range) : Prop :=
  range.rows ≠ [] → range.columnCount.toNat = range.columns.length

theorem Fits.evenRows (fits : range.Fits) : range.EvenRows := fun _ => fits.columnCount_eq

/-- Corners whose columns are crossed and adjoin have none between them, and none is counted. -/
theorem evenRows_iff :
    range.EvenRows ↔ range.last.row < range.first.row ∨
      range.first.column.toNat ≤ range.last.column.toNat + 1 ∧ ¬ range.AllColumns := by
  have row := range.last.row.toNat_lt
  have first := range.first.column.toNat_lt
  have last := range.last.column.toNat_lt
  have rows : range.rows ≠ [] ↔ ¬ range.last.row < range.first.row := by
    rw [← List.length_pos_iff, length_rows, UInt32.lt_iff_toNat_lt]
    omega
  have columns : range.columnCount.toNat = range.columns.length ↔
      range.first.column.toNat ≤ range.last.column.toNat + 1 ∧ ¬ range.AllColumns := by
    unfold columnCount AllColumns
    rw [length_columns, UInt16.toNat_add, UInt16.toNat_sub]
    change ((65536 - _ + _) % 65536 + 1) % 65536 = _ ↔ _ ∧ ¬ (_ ∧ _ = 65536)
    omega
  unfold EvenRows
  rw [rows, columns, Classical.or_iff_not_imp_left]

section Take

variable {α β : Type} (f : α → List β) {n bound : Nat}

theorem take_flatMap_take (items : List α) (le : n ≤ bound) :
    (items.flatMap fun item => (f item).take bound).take n = (items.flatMap f).take n := by
  induction items generalizing n with
  | nil => rfl
  | cons item items ih =>
      rw [List.flatMap_cons, List.flatMap_cons, List.take_append, List.take_append, List.take_take,
        Nat.min_eq_left le, List.length_take]
      rcases Nat.le_total (f item).length bound with short | long
      · rw [Nat.min_eq_right short, ih ((Nat.sub_le _ _).trans le)]
      · rw [Nat.min_eq_left long, Nat.sub_eq_zero_of_le le, Nat.sub_eq_zero_of_le (le.trans long),
          List.take_zero, List.take_zero]

/-- Where every item has something in it, no more items are needed than entries are taken. -/
theorem take_flatMap_of_ne_nil (items : List α) (filled : ∀ item ∈ items, f item ≠ [])
    (le : n ≤ bound) : ((items.take bound).flatMap f).take n = (items.flatMap f).take n := by
  induction items generalizing n bound with
  | nil => rw [List.take_nil]
  | cons item items ih =>
      obtain ⟨here, behind⟩ := List.forall_mem_cons.mp filled
      cases bound with
      | zero => rw [Nat.le_zero.mp le, List.take_zero, List.take_zero]
      | succ bound =>
          have taken : n - (f item).length ≤ bound := by
            have := List.length_pos_iff.mpr here
            omega
          rw [List.take_succ_cons, List.flatMap_cons, List.flatMap_cons, List.take_append,
            List.take_append, ih behind taken]

end Take

/-- The cells that are listed first. -/
theorem firstCells_eq (range : Range) (n : Nat) : range.firstCells n = range.cells.take n := by
  unfold firstCells cells
  simp only [List.map_take]
  rw [take_flatMap_take _ _ (Nat.le_refl n)]
  by_cases none : range.columns = []
  · have empty (rows : List UInt32) :
        (rows.flatMap fun row => range.columns.map fun column => .relative row column) =
          ([] : List Address) := List.flatMap_eq_nil_iff.mpr fun row _ => by rw [none, List.map_nil]
    rw [empty, empty]
  · refine take_flatMap_of_ne_nil _ _ (fun row _ => ?_) (Nat.le_refl n)
    rwa [Ne, List.map_eq_nil_iff]

end Range

end Spreadsheet
