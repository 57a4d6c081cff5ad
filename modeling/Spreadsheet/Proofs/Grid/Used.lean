import Spreadsheet.Proofs.Formula.Subtrees
import Spreadsheet.Proofs.Grid.Editing

/-! The rectangle in use. It is the smallest one around the cells that show something as long as an
address can hold their positions; a position beyond that is cut to the width of an address. -/

namespace Spreadsheet.Grid

/-- The cell at a place, counted without any bound, shows something. -/
def Shows (grid : Grid) (row column : Nat) : Prop :=
  ∃ cells cell, grid.rows[row]? = some cells ∧ cells[column]? = some cell ∧ cell.value ≠ ""

/-- A rectangle that holds every cell that shows something, and has one of these on each side. -/
structure Encloses (range : Range) (grid : Grid) : Prop where
  rows : ∀ row column, grid.Shows row column →
    range.first.row.toNat ≤ row ∧ row ≤ range.last.row.toNat
  columns : ∀ row column, grid.Shows row column →
    range.first.column.toNat ≤ column ∧ column ≤ range.last.column.toNat
  top : ∃ column, grid.Shows range.first.row.toNat column
  bottom : ∃ column, grid.Shows range.last.row.toNat column
  left : ∃ row, grid.Shows row range.first.column.toNat
  right : ∃ row, grid.Shows row range.last.column.toNat

/-- Addresses can hold the positions of all cells that show something. -/
def Addressable (grid : Grid) : Prop :=
  ∀ row column, grid.Shows row column → row < UInt32.size ∧ column < UInt16.size

theorem shows_iff {grid : Grid} {row column : Nat} :
    grid.Shows row column ↔
      ((grid.rows[row]?.getD [])[column]?.getD Cell.blank).value ≠ "" := by
  unfold Shows
  constructor
  · rintro ⟨cells, cell, listed, inRow, filled⟩
    rwa [listed, Option.getD_some, inRow]
  · intro filled
    cases listed : grid.rows[row]? with
    | none => exact absurd rfl (listed ▸ filled)
    | some cells =>
        rw [listed, Option.getD_some] at filled
        cases inRow : cells[column]? with
        | none => exact absurd rfl (inRow ▸ filled)
        | some cell => exact ⟨cells, cell, rfl, inRow, by rwa [inRow] at filled⟩

theorem shows_of_write {grid : Grid} {place : UInt32} {target : UInt16} {cell : Cell}
    {row column : Nat} (shown : (grid.write place target cell).Shows row column) :
    row = place.toNat ∧ column = target.toNat ∨ grid.Shows row column := by
  rw [shows_iff] at shown ⊢
  unfold write at shown
  rw [getD_putAt] at shown
  split at shown
  next sameRow =>
    rw [getD_putAt] at shown
    split at shown
    next sameColumn => exact .inl ⟨sameRow, sameColumn⟩
    next => exact .inr (sameRow ▸ shown)
  next => exact .inr shown

theorem Addressable.write {grid : Grid} (addressable : grid.Addressable) (place : UInt32)
    (target : UInt16) (cell : Cell) : (grid.write place target cell).Addressable := by
  intro row column shown
  rcases shows_of_write shown with ⟨rfl, rfl⟩ | earlier
  · exact ⟨place.toNat_lt, target.toNat_lt⟩
  · exact addressable row column earlier

theorem Addressable.after {grid : Grid} (addressable : grid.Addressable) (edit : Edit) :
    (grid.after edit).Addressable := by
  cases target : edit.target with
  | ok position => rw [after_of_ok target]; exact addressable.write _ _ _
  | error cause => rwa [after_of_error target]

theorem Addressable.run {grid : Grid} (addressable : grid.Addressable) (edits : List Edit) :
    (grid.run edits).Addressable := by
  induction edits generalizing grid with
  | nil => exact addressable
  | cons edit edits ih => exact ih (addressable.after edit)

theorem mem_occupied {grid : Grid} {position : UInt32 × UInt16} :
    position ∈ grid.occupied ↔
      ∃ row column, grid.Shows row column ∧ position = (.ofNat row, .ofNat column) := by
  unfold occupied
  rw [List.mem_flatMap]
  constructor
  · rintro ⟨⟨cells, row⟩, listed, kept⟩
    obtain ⟨⟨cell, column⟩, inRow, found⟩ := List.mem_filterMap.mp kept
    rw [List.mem_zipIdx_iff_getElem?] at listed inRow
    dsimp only at found
    by_cases blank : cell.isEmpty = true
    · rw [if_pos blank] at found
      cases found
    · rw [if_neg blank] at found
      cases found
      refine ⟨row, column, ⟨cells, cell, listed, inRow, fun empty => blank ?_⟩, rfl⟩
      rw [Cell.isEmpty, empty]
      rfl
  · rintro ⟨row, column, ⟨cells, cell, listed, inRow, filled⟩, rfl⟩
    refine ⟨(cells, row), List.mem_zipIdx_iff_getElem?.mpr listed, ?_⟩
    refine List.mem_filterMap.mpr ⟨(cell, column), List.mem_zipIdx_iff_getElem?.mpr inRow, ?_⟩
    exact if_neg fun blank => filled (String.isEmpty_iff.mp blank)

theorem occupied_eq_nil_iff {grid : Grid} :
    grid.occupied = [] ↔ ∀ row column, ¬ grid.Shows row column := by
  rw [List.eq_nil_iff_forall_not_mem]
  constructor
  · exact fun none row column shown => none _ (mem_occupied.mpr ⟨row, column, shown, rfl⟩)
  · intro none position member
    obtain ⟨row, column, shown, -⟩ := mem_occupied.mp member
    exact none row column shown

/-- Of two equal values it does not matter which one is the greater. -/
theorem greater_eq {α : Type} [LE α] [DecidableLE α] [Std.IsLinearOrder α] (a b : α) :
    (if a ≤ b then b else a) = if b ≤ a then a else b := by
  by_cases below : a ≤ b
  · by_cases above : b ≤ a
    · rw [if_pos below, if_pos above, Std.le_antisymm below above]
    · rw [if_pos below, if_neg above]
  · rw [if_neg below, if_pos (Std.le_of_not_ge below)]

instance : Std.LawfulOrderLeftLeaningMax UInt32 := .of_eq greater_eq

instance : Std.LawfulOrderLeftLeaningMax UInt16 := .of_eq greater_eq

/-- Least row and column of some positions, and greatest row and column. Each is that of a
position. -/
structure Bounds (positions : List (UInt32 × UInt16))
    (bounds : (UInt32 × UInt16) × (UInt32 × UInt16)) : Prop where
  rows : ∀ position ∈ positions, bounds.1.1 ≤ position.1 ∧ position.1 ≤ bounds.2.1
  columns : ∀ position ∈ positions, bounds.1.2 ≤ position.2 ∧ position.2 ≤ bounds.2.2
  top : ∃ position ∈ positions, position.1 = bounds.1.1
  bottom : ∃ position ∈ positions, position.1 = bounds.2.1
  left : ∃ position ∈ positions, position.2 = bounds.1.2
  right : ∃ position ∈ positions, position.2 = bounds.2.2

namespace Bounds

variable {positions : List (UInt32 × UInt16)} {bounds : (UInt32 × UInt16) × (UInt32 × UInt16)}

theorem single (position : UInt32 × UInt16) : Bounds [position] (position, position) := by
  have member : position ∈ [position] := List.mem_singleton_self position
  refine ⟨?_, ?_, ⟨_, member, rfl⟩, ⟨_, member, rfl⟩, ⟨_, member, rfl⟩, ⟨_, member, rfl⟩⟩
  all_goals
    intro other found
    cases List.mem_singleton.mp found
    exact ⟨Std.le_refl _, Std.le_refl _⟩

/-- The lesser of a bound and another value is still that of a position. -/
theorem attains {α β : Type} {positions : List β} {part : β → α} {bound : α} {position : β}
    {chosen : α} (attained : ∃ other ∈ positions, part other = bound)
    (either : chosen = bound ∨ chosen = part position) :
    ∃ other ∈ positions ++ [position], part other = chosen := by
  rcases either with rfl | rfl
  · obtain ⟨other, member, same⟩ := attained
    exact ⟨other, List.mem_append_left _ member, same⟩
  · exact ⟨position, List.mem_append_right _ (List.mem_singleton_self _), rfl⟩

theorem enclose (holds : Bounds positions bounds) (position : UInt32 × UInt16) :
    Bounds (positions ++ [position]) (enclose bounds position) where
  rows other member := by
    rcases List.mem_append.mp member with earlier | last
    · obtain ⟨low, high⟩ := holds.rows other earlier
      exact ⟨Std.le_trans Std.min_le_left low, Std.le_trans high Std.left_le_max⟩
    · cases List.mem_singleton.mp last
      exact ⟨Std.min_le_right, Std.right_le_max⟩
  columns other member := by
    rcases List.mem_append.mp member with earlier | last
    · obtain ⟨low, high⟩ := holds.columns other earlier
      exact ⟨Std.le_trans Std.min_le_left low, Std.le_trans high Std.left_le_max⟩
    · cases List.mem_singleton.mp last
      exact ⟨Std.min_le_right, Std.right_le_max⟩
  top := attains holds.top Std.min_eq_or
  bottom := attains holds.bottom Std.max_eq_or
  left := attains holds.left Std.min_eq_or
  right := attains holds.right Std.max_eq_or

theorem run (holds : Bounds positions bounds) (rest : List (UInt32 × UInt16)) :
    Bounds (positions ++ rest) (rest.foldl Grid.enclose bounds) := by
  induction rest generalizing positions bounds with
  | nil => rwa [List.append_nil]
  | cons position rest ih =>
      have next := ih (holds.enclose position)
      rwa [List.append_assoc] at next

end Bounds

theorem usedRange_eq_none_iff {grid : Grid} : grid.usedRange = none ↔ grid.occupied = [] := by
  unfold usedRange
  split
  next none => exact iff_of_true rfl none
  next some => exact iff_of_false nofun (by rw [some]; nofun)

/-- The corners of the rectangle are bounds of the positions. -/
theorem bounds_of_usedRange {grid : Grid} {range : Range} (used : grid.usedRange = some range) :
    Bounds grid.occupied
      ((range.first.row, range.first.column), (range.last.row, range.last.column)) := by
  unfold usedRange at used
  split at used
  next => cases used
  next position rest listed =>
    have bounds := (Bounds.single position).run rest
    rw [List.singleton_append, ← listed] at bounds
    dsimp only at used
    generalize rest.foldl enclose (position, position) = corners at used bounds
    obtain ⟨highest, member, -⟩ := bounds.top
    have rows : corners.1.1 ≤ corners.2.1 :=
      Std.le_trans (bounds.rows highest member).1 (bounds.rows highest member).2
    have columns : corners.1.2 ≤ corners.2.2 :=
      Std.le_trans (bounds.columns highest member).1 (bounds.columns highest member).2
    have ordered : Range.Ordered
        ⟨.relative corners.1.1 corners.1.2, .relative corners.2.1 corners.2.2⟩ := ⟨rows, columns⟩
    rw [Option.some.injEq, Range.spanning_of_ordered ordered] at used
    subst used
    exact bounds

theorem shows_of_mem_occupied {grid : Grid} (addressable : grid.Addressable)
    {position : UInt32 × UInt16} (member : position ∈ grid.occupied) :
    grid.Shows position.1.toNat position.2.toNat := by
  obtain ⟨row, column, shown, rfl⟩ := mem_occupied.mp member
  obtain ⟨below, left⟩ := addressable row column shown
  rwa [UInt32.toNat_ofNat_of_lt' below, UInt16.toNat_ofNat_of_lt' left]

theorem encloses_of_usedRange {grid : Grid} {range : Range} (addressable : grid.Addressable)
    (used : grid.usedRange = some range) : Encloses range grid := by
  have bounds := bounds_of_usedRange used
  have listed {row column : Nat} (shown : grid.Shows row column) :
      ∃ position ∈ grid.occupied, position.1.toNat = row ∧ position.2.toNat = column := by
    obtain ⟨below, left⟩ := addressable row column shown
    refine ⟨_, mem_occupied.mpr ⟨row, column, shown, rfl⟩, ?_, ?_⟩
    · exact UInt32.toNat_ofNat_of_lt' below
    · exact UInt16.toNat_ofNat_of_lt' left
  constructor
  · rintro row column shown
    obtain ⟨position, member, rfl, rfl⟩ := listed shown
    exact bounds.rows position member
  · rintro row column shown
    obtain ⟨position, member, rfl, rfl⟩ := listed shown
    exact bounds.columns position member
  · obtain ⟨position, member, same⟩ := bounds.top
    exact ⟨_, same ▸ shows_of_mem_occupied addressable member⟩
  · obtain ⟨position, member, same⟩ := bounds.bottom
    exact ⟨_, same ▸ shows_of_mem_occupied addressable member⟩
  · obtain ⟨position, member, same⟩ := bounds.left
    exact ⟨_, same ▸ shows_of_mem_occupied addressable member⟩
  · obtain ⟨position, member, same⟩ := bounds.right
    exact ⟨_, same ▸ shows_of_mem_occupied addressable member⟩

/-- There is a rectangle in use exactly when some cell shows something, and it is the smallest one
around these cells exactly when addresses can hold the positions of all of them. Calls that write
cells do not leave such grids. -/
theorem usedRange_exact (grid : Grid) :
    (grid.usedRange = none ↔ ∀ row column, ¬ grid.Shows row column) ∧
      ((∀ range, grid.usedRange = some range → Encloses range grid) ↔ grid.Addressable) ∧
      (grid.Addressable → ∀ edits, (grid.run edits).Addressable) := by
  refine ⟨usedRange_eq_none_iff.trans occupied_eq_nil_iff, ⟨?_, ?_⟩, Addressable.run⟩
  · intro encloses row column shown
    have used : grid.usedRange ≠ none := fun none =>
      occupied_eq_nil_iff.mp (usedRange_eq_none_iff.mp none) row column shown
    obtain ⟨range, used⟩ := Option.ne_none_iff_exists'.mp used
    have smallest := encloses range used
    exact ⟨(smallest.rows row column shown).2.trans_lt range.last.row.toNat_lt,
      (smallest.columns row column shown).2.trans_lt range.last.column.toNat_lt⟩
  · exact fun addressable range used => encloses_of_usedRange addressable used

section LastCell

/-- One row of blanks with one cell behind them. -/
def lastCell (blanks : Nat) (text : String) : Grid :=
  ⟨[List.replicate blanks Cell.blank ++ [Cell.plain text]]⟩

variable {text : String} (filled : text ≠ "") (blanks : Nat)

include filled

theorem shows_lastCell : (lastCell blanks text).Shows 0 blanks := by
  refine ⟨_, Cell.plain text, rfl, ?_, filled⟩
  rw [List.getElem?_append_right (by simp), List.length_replicate, Nat.sub_self]
  rfl

theorem occupied_lastCell : (lastCell blanks text).occupied = [(0, .ofNat blanks)] := by
  have shown : ¬ (Cell.plain text).isEmpty = true := fun blank =>
    filled (String.isEmpty_iff.mp blank)
  unfold occupied lastCell
  rw [List.zipIdx_singleton, List.flatMap_singleton]
  dsimp only
  rw [List.zipIdx_append, List.filterMap_append, List.filterMap_eq_nil_iff.mpr, List.nil_append,
    List.zipIdx_singleton, List.length_replicate, Nat.zero_add]
  · rw [List.filterMap_cons, if_neg shown]
    rfl
  · rintro ⟨cell, column⟩ member
    rw [List.mem_zipIdx_iff_getElem?] at member
    rw [List.eq_of_mem_replicate (List.mem_of_getElem? member)]
    rfl

theorem usedRange_lastCell :
    (lastCell blanks text).usedRange =
      some ⟨.relative 0 (.ofNat blanks), .relative 0 (.ofNat blanks)⟩ := by
  have cell : Range.Ordered ⟨.relative 0 (.ofNat blanks), .relative 0 (.ofNat blanks)⟩ :=
    ⟨Std.le_refl _, Std.le_refl _⟩
  unfold usedRange
  rw [occupied_lastCell filled]
  exact congrArg some (Range.spanning_of_ordered cell)

end LastCell

/-- A cell in the first column that addresses cannot hold is taken for one in the first column of
all, where nothing is shown. -/
theorem usedRange_beyond_addresses :
    (lastCell UInt16.size "x").usedRange = some ⟨.relative 0 0, .relative 0 0⟩ ∧
      ¬ Encloses ⟨.relative 0 0, .relative 0 0⟩ (lastCell UInt16.size "x") := by
  have filled : "x" ≠ "" := by decide
  have column : UInt16.ofNat UInt16.size = 0 := by decide
  constructor
  · rw [usedRange_lastCell filled, column]
  · intro encloses
    have beyond : UInt16.size ≤ 0 := (encloses.columns 0 _ (shows_lastCell filled _)).2
    exact absurd beyond (by decide)

end Spreadsheet.Grid
