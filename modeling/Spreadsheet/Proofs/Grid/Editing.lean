import Spreadsheet.Outcome
import Spreadsheet.Proofs.Grid.Values

/-! Grids as maps from positions to cells, under calls that write cells. -/

namespace Spreadsheet

/-- A call that writes one cell, at an address or at a position. -/
inductive Edit
  | value (address text : String)
  | valueAt (row : UInt32) (column : UInt16) (text : String)
  | computedAt (row : UInt32) (column : UInt16) (shown source : String)
  | cellAt (row : UInt32) (column : UInt16) (given : Cell)
  | formula (address source : String)
  deriving DecidableEq

namespace Edit

/-- Row and column of the cell, or what is wrong with the address. -/
def target : Edit → Except ReferenceError (UInt32 × UInt16)
  | .value address _ | .formula address _ => do
    let address ← Address.read address.toList
    return (address.row, address.column)
  | .valueAt row column _ | .computedAt row column _ _ | .cellAt row column _ => .ok (row, column)

/-- The cell to write. A formula is evaluated over the grid as it is. -/
def cell (grid : Grid) : Edit → Cell
  | .value _ text | .valueAt _ _ text => .plain text
  | .computedAt _ _ shown source => .computed shown source
  | .cellAt _ _ given => given
  | .formula _ source => .computed (grid.display .standard source) source

end Edit

namespace Grid

def rowLength (grid : Grid) (row : Nat) : Nat := (grid.rows[row]?.getD []).length

def perform (grid : Grid) : Edit → Except ReferenceError Grid
  | .value address text => grid.writeAt address.toList (.plain text)
  | .valueAt row column text => .ok (grid.write row column (.plain text))
  | .computedAt row column shown source => .ok (grid.write row column (.computed shown source))
  | .cellAt row column given => .ok (grid.write row column given)
  | .formula address source => (grid.writeFormula address.toList source).map Prod.snd

/-- The grid behind a call, which is the one before it if the call fails. -/
def after (grid : Grid) (edit : Edit) : Grid :=
  match grid.perform edit with
  | .ok written => written
  | .error _ => grid

def run (grid : Grid) (edits : List Edit) : Grid := edits.foldl after grid

end Grid

/-- A cell that was written, with its position. -/
structure Write where
  row : UInt32
  column : UInt16
  cell : Cell

/-- The writes of a run in their order, one for each call that succeeds. -/
def Grid.history (grid : Grid) : List Edit → List Write
  | [] => []
  | edit :: edits =>
    match edit.target with
    | .ok (row, column) => ⟨row, column, edit.cell grid⟩ :: (grid.after edit).history edits
    | .error _ => (grid.after edit).history edits

/-- The cell that was written last at a position. -/
def lastWritten? (row : UInt32) (column : UInt16) (writes : List Write) : Option Cell :=
  (writes.reverse.find? fun write => write.row = row ∧ write.column = column).map Write.cell

namespace Grid

theorem length_putAt {α : Type} (blank : α) (put : α → α) (place : Nat) (items : List α) :
    (putAt blank put place items).length = max items.length (place + 1) := by
  induction place generalizing items with
  | zero => cases items <;> simp [putAt]
  | succ place ih => cases items <;> simp [putAt, ih]

theorem rowCount_write (grid : Grid) (place : UInt32) (target : UInt16) (cell : Cell) :
    (grid.write place target cell).rowCount = max grid.rowCount (place.toNat + 1) :=
  length_putAt _ _ _ _

theorem rowLength_write (grid : Grid) (place : UInt32) (target : UInt16) (cell : Cell) (row : Nat) :
    (grid.write place target cell).rowLength row =
      if row = place.toNat then max (grid.rowLength row) (target.toNat + 1)
      else grid.rowLength row := by
  unfold rowLength write
  rw [getD_putAt]
  split
  next same => rw [length_putAt, same]
  next => rfl

theorem perform_eq (grid : Grid) (edit : Edit) :
    grid.perform edit =
      edit.target.map fun (row, column) => grid.write row column (edit.cell grid) := by
  cases edit with
  | value address text =>
      simp only [perform, writeAt, Edit.target]
      cases Address.read address.toList <;> rfl
  | formula address source =>
      simp only [perform, writeFormula, writeAt, Edit.target]
      cases Address.read address.toList <;> rfl
  | valueAt | computedAt | cellAt => rfl

theorem after_of_ok {grid : Grid} {edit : Edit} {row : UInt32} {column : UInt16}
    (valid : edit.target = .ok (row, column)) :
    grid.after edit = grid.write row column (edit.cell grid) := by
  unfold after
  rw [perform_eq, valid]
  rfl

theorem after_of_error {grid : Grid} {edit : Edit} {cause : ReferenceError}
    (invalid : edit.target = .error cause) : grid.after edit = grid := by
  unfold after
  rw [perform_eq, invalid]
  rfl

/-- No row is lost or cut. -/
structure Within (smaller larger : Grid) : Prop where
  rows : smaller.rowCount ≤ larger.rowCount
  cells : ∀ row, smaller.rowLength row ≤ larger.rowLength row

theorem Within.refl (grid : Grid) : Within grid grid := ⟨Nat.le_refl _, fun _ => Nat.le_refl _⟩

theorem Within.trans {a b c : Grid} (first : Within a b) (second : Within b c) : Within a c :=
  ⟨first.rows.trans second.rows, fun row => (first.cells row).trans (second.cells row)⟩

theorem Within.write (grid : Grid) (row : UInt32) (column : UInt16) (cell : Cell) :
    Within grid (grid.write row column cell) := by
  refine ⟨?_, fun n => ?_⟩
  · rw [rowCount_write]
    exact Nat.le_max_left _ _
  · rw [rowLength_write]
    split
    · exact Nat.le_max_left _ _
    · exact Nat.le_refl _

theorem Within.after (grid : Grid) (edit : Edit) : Within grid (grid.after edit) := by
  cases target : edit.target with
  | ok position => rw [after_of_ok target]; exact .write ..
  | error cause => rw [after_of_error target]; exact .refl grid

theorem Within.run (grid : Grid) (edits : List Edit) : Within grid (grid.run edits) := by
  induction edits generalizing grid with
  | nil => exact .refl grid
  | cons edit edits ih => exact (Within.after grid edit).trans (ih (grid.after edit))

theorem lastWritten?_cons (row : UInt32) (column : UInt16) (first : Write) (writes : List Write) :
    lastWritten? row column (first :: writes) =
      (lastWritten? row column writes).or
        (if row = first.row ∧ column = first.column then some first.cell else none) := by
  unfold lastWritten?
  rw [List.reverse_cons, List.find?_append, Option.map_or, List.find?_singleton]
  simp only [decide_eq_true_eq, eq_comm (a := first.row), eq_comm (a := first.column)]
  split <;> rfl

theorem cellAt_run (grid : Grid) (edits : List Edit) (row : UInt32) (column : UInt16) :
    (grid.run edits).cellAt row column =
      (lastWritten? row column (grid.history edits)).getD (grid.cellAt row column) := by
  induction edits generalizing grid with
  | nil => rfl
  | cons edit edits ih =>
      have later := ih (grid.after edit)
      change ((grid.after edit).run edits).cellAt row column = _
      rw [later, history]
      cases target : edit.target with
      | ok position =>
          obtain ⟨place, aim⟩ := position
          dsimp only
          rw [lastWritten?_cons, Option.getD_or, after_of_ok target, cellAt_write]
          split <;> rfl
      | error cause => rw [after_of_error target]

/-- A grid is a map from positions to cells. After any calls the cell at a position is the one that
the last successful call put there, or the one from the start; calls with a wrong address change
nothing; a formula is stored with what it shows over the grid before the call; rows only grow. -/
theorem run_as_map (start : Grid) (edits : List Edit) :
    (∀ row column, (start.run edits).cellAt row column =
      (lastWritten? row column (start.history edits)).getD (start.cellAt row column)) ∧
    Within start (start.run edits) ∧
    (∀ (grid : Grid) (edit : Edit) (cause : ReferenceError), edit.target = .error cause →
      grid.perform edit = .error cause ∧ grid.after edit = grid) ∧
    (∀ (grid : Grid) (edit : Edit) (row : UInt32) (column : UInt16),
      edit.target = .ok (row, column) →
        grid.perform edit = .ok (grid.after edit) ∧
          (grid.after edit).cellAt row column = edit.cell grid) ∧
    ∀ (grid : Grid) (address source : String),
      (grid.writeFormula address.toList source).map Prod.fst =
        (Address.read address.toList).map fun _ => grid.display .standard source := by
  refine ⟨cellAt_run start edits, .run start edits, ?_, ?_, ?_⟩
  · intro grid edit cause invalid
    exact ⟨by rw [perform_eq, invalid]; rfl, after_of_error invalid⟩
  · intro grid edit row column valid
    rw [after_of_ok valid, perform_eq, valid, cellAt_write]
    exact ⟨rfl, if_pos ⟨rfl, rfl⟩⟩
  · intro grid address source
    simp only [writeFormula, writeAt]
    cases Address.read address.toList <;> rfl

end Grid

end Spreadsheet
