import Spreadsheet.Proofs.Builtin.Failure
import Spreadsheet.Proofs.Builtin.Order
import Spreadsheet.Proofs.Evaluation.Ranges
import Spreadsheet.Proofs.Grid.Rectangle

namespace Spreadsheet

open Spreadsheet.Formula

namespace Range

/-- A horizontal line cuts the whole into an upper and a lower part, both of all its columns. -/
structure CutAcross (whole upper lower : Range) : Prop where
  upper_ordered : upper.Ordered
  lower_ordered : lower.Ordered
  top : upper.first.row = whole.first.row
  meets : lower.first.row.toNat = upper.last.row.toNat + 1
  bottom : lower.last.row = whole.last.row
  left : upper.first.column = whole.first.column ∧ lower.first.column = whole.first.column
  right : upper.last.column = whole.last.column ∧ lower.last.column = whole.last.column

/-- A vertical line cuts the whole into a left and a right part, both of all its rows. -/
structure CutDown (whole left right : Range) : Prop where
  left_ordered : left.Ordered
  right_ordered : right.Ordered
  front : left.first.column = whole.first.column
  meets : right.first.column.toNat = left.last.column.toNat + 1
  back : right.last.column = whole.last.column
  top : left.first.row = whole.first.row ∧ right.first.row = whole.first.row
  bottom : left.last.row = whole.last.row ∧ right.last.row = whole.last.row

/-- Two parts that have the cells of the whole, each of them once. -/
structure Parts (whole first second : Range) : Prop where
  fits : whole.Fits
  first_fits : first.Fits
  second_fits : second.Fits
  cells : (first.cells ++ second.cells).Perm whole.cells

variable {whole first second : Range}

theorem range'_cut {a b c : Nat} (start : a ≤ b) (stop : b ≤ c) :
    List.range' a (c - a) = List.range' a (b - a) ++ List.range' b (c - b) := by
  have total : c - a = (b - a) + (c - b) := by omega
  rw [total, ← List.range'_append_1, Nat.add_sub_cancel' start]

namespace CutAcross

variable (cut : whole.CutAcross first second)

include cut

theorem cells_eq : whole.cells = first.cells ++ second.cells := by
  have upper := UInt32.le_iff_toNat_le.mp cut.upper_ordered.1
  have lower := UInt32.le_iff_toNat_le.mp cut.lower_ordered.1
  have meets := cut.meets
  have rows : whole.rows = first.rows ++ second.rows := by
    unfold Range.rows
    rw [← List.map_append, meets, ← cut.top, ← cut.bottom,
      range'_cut (b := first.last.row.toNat + 1) (by omega) (by omega)]
  have columns : first.columns = whole.columns ∧ second.columns = whole.columns := by
    unfold Range.columns
    rw [cut.left.1, cut.left.2, cut.right.1, cut.right.2]
    exact ⟨rfl, rfl⟩
  unfold Range.cells
  rw [rows, columns.1, columns.2, List.flatMap_append]

theorem parts (fits : whole.Fits) : whole.Parts first second := by
  have cells := cut.cells_eq
  have rows := fits.rows
  have columns := fits.columns
  obtain ⟨upper, lower, top, meets, bottom, left, right⟩ := cut
  have above := UInt32.le_iff_toNat_le.mp upper.1
  have below := UInt32.le_iff_toNat_le.mp lower.1
  rw [← top, ← bottom] at rows
  refine ⟨fits, ⟨upper, by omega, ?_⟩, ⟨lower, by omega, ?_⟩, by rw [cells]⟩
  · rwa [left.1, right.1]
  · rwa [left.2, right.2]

end CutAcross

namespace CutDown

variable (cut : whole.CutDown first second)

include cut

/-- Each row is cut in two, so the parts are listed in turns. -/
theorem cells_perm : (first.cells ++ second.cells).Perm whole.cells := by
  have left := UInt16.le_iff_toNat_le.mp cut.left_ordered.2
  have right := UInt16.le_iff_toNat_le.mp cut.right_ordered.2
  have meets := cut.meets
  have columns : whole.columns = first.columns ++ second.columns := by
    unfold Range.columns
    rw [← List.map_append, meets, ← cut.front, ← cut.back,
      range'_cut (b := first.last.column.toNat + 1) (by omega) (by omega)]
  have rows : first.rows = whole.rows ∧ second.rows = whole.rows := by
    unfold Range.rows
    rw [cut.top.1, cut.top.2, cut.bottom.1, cut.bottom.2]
    exact ⟨rfl, rfl⟩
  unfold Range.cells
  rw [rows.1, rows.2, columns]
  simp only [List.map_append]
  exact List.flatMap_append_perm _ _ _

theorem parts (fits : whole.Fits) : whole.Parts first second := by
  have cells := cut.cells_perm
  have rows := fits.rows
  have columns := fits.columns
  obtain ⟨left, right, front, meets, back, top, bottom⟩ := cut
  have before := UInt16.le_iff_toNat_le.mp left.2
  have behind := UInt16.le_iff_toNat_le.mp right.2
  rw [← front, ← back] at columns
  refine ⟨fits, ⟨left, ?_, by omega⟩, ⟨right, ?_, by omega⟩, cells⟩
  · rwa [top.1, bottom.1]
  · rwa [top.2, bottom.2]

end CutDown

namespace Parts

variable (parts : whole.Parts first second)

include parts

theorem cellCount_toNat :
    first.cellCount.toNat + second.cellCount.toNat = whole.cellCount.toNat := by
  rw [parts.fits.cellCount_eq, parts.first_fits.cellCount_eq, parts.second_fits.cellCount_eq,
    ← List.length_append, parts.cells.length_eq]

theorem cellCount_eq : whole.cellCount = first.cellCount + second.cellCount := by
  have total := parts.cellCount_toNat
  have bound := whole.cellCount.toNat_lt
  rw [← UInt64.toNat_inj, UInt64.toNat_add, total, Nat.mod_eq_of_lt bound]

theorem cellsOf_eq : cellsOf [first, second] = cellsOf [whole] := by
  simpa [cellsOf] using parts.cellCount_toNat

theorem drawAll_eq (meter : Meter) : meter.drawAll [first, second] = meter.drawAll [whole] := by
  change (meter.draw first.cellCount).draw second.cellCount = meter.draw whole.cellCount
  rw [Meter.draw_draw, parts.cellCount_eq]

end Parts

section Margin

variable {inner larger : Range} (ordered : inner.Ordered) (fits : larger.Fits)
  (inside : ∀ row column, inner.Covers row column → larger.Covers row column)

include inside

/-- The cells inside are listed in the same order. -/
theorem filter_cells : larger.cells.filter (· ∈ inner.cells) = inner.cells := by
  refine List.Pairwise.eq_of_mem_iff (larger.sorted_cells.filter _) inner.sorted_cells
    fun address => ?_
  rw [List.mem_filter, decide_eq_true_eq, and_iff_right_iff_imp, mem_cells, mem_cells]
  exact fun ⟨unmarked, covers⟩ => ⟨unmarked, inside _ _ covers⟩

include ordered fits

theorem Fits.of_inside : inner.Fits := by
  obtain ⟨⟨top, -⟩, left, -⟩ :=
    inside _ _ ⟨⟨UInt32.le_refl _, ordered.1⟩, UInt16.le_refl _, ordered.2⟩
  obtain ⟨⟨-, bottom⟩, -, right⟩ :=
    inside _ _ ⟨⟨ordered.1, UInt32.le_refl _⟩, ordered.2, UInt16.le_refl _⟩
  rw [UInt32.le_iff_toNat_le] at top bottom
  rw [UInt16.le_iff_toNat_le] at left right
  obtain ⟨-, rows, columns⟩ := fits
  exact ⟨ordered, by omega, by omega⟩

theorem cellCount_le_of_inside : inner.cellCount ≤ larger.cellCount := by
  rw [UInt64.le_iff_toNat_le, (Fits.of_inside ordered fits inside).cellCount_eq,
    fits.cellCount_eq, ← filter_cells inside]
  exact List.length_filter_le _ _

end Margin

end Range

namespace Grid

variable (grid : Grid)

/-- The entries of the cells of some rectangles that are not empty. -/
theorem filledEntries_table (ranges : List Range) :
    filledEntries (ranges.map grid.table) =
      ((ranges.flatMap Range.cells).map grid.typedCell).filter (!·.isEmpty) := by
  unfold filledEntries
  rw [List.flatMap_map, List.map_flatMap]
  simp only [flatten_table]

theorem map_typedRange {ranges : List Range} (fits : ∀ range ∈ ranges, range.Fits) :
    ranges.map grid.typedRange = (ranges.map grid.table).map .array := by
  rw [List.map_map]
  refine List.map_congr_left fun range listed => ?_
  exact grid.typedRange_eq_table (fits range listed).evenRows

/-- A blank margin around a rectangle adds no entries. -/
theorem filledEntries_of_margin {inner larger : Range}
    (inside : ∀ row column, inner.Covers row column → larger.Covers row column)
    (blank : ∀ row column, larger.Covers row column → ¬ inner.Covers row column →
      grid.valueAt row column = "") :
    filledEntries ([inner].map grid.table) = filledEntries ([larger].map grid.table) := by
  rw [filledEntries_table, filledEntries_table, List.filter_map, List.filter_map,
    List.flatMap_singleton, List.flatMap_singleton, ← Range.filter_cells inside,
    List.filter_filter]
  congr 1
  refine List.filter_congr fun address listed => ?_
  by_cases among : address ∈ inner.cells
  · simp [among]
  · obtain ⟨unmarked, covers⟩ := Range.mem_cells.mp listed
    have outside : ¬ inner.Covers address.row address.column :=
      fun covers => among (Range.mem_cells.mpr ⟨unmarked, covers⟩)
    have empty : grid.typedCell address = .empty := by
      change Value.ofCellText (grid.valueAt address.row address.column) = .empty
      rw [blank _ _ covers outside]
      rfl
    simp [among, empty, Value.isEmpty]

end Grid

theorem Strict.admits_of_aggregate {f : Strict} (aggregate : f ∈ aggregates)
    {count : Nat} (some : 0 < count) : f.arity.Admits count := by
  have any : f.arity = ⟨1, none⟩ := by
    simp only [aggregates, List.mem_cons, List.not_mem_nil, or_false] at aggregate
    rcases aggregate with rfl | rfl | rfl | rfl | rfl | rfl | rfl | rfl | rfl <;> rfl
  rw [any]
  exact ⟨some, nofun⟩

namespace Session

variable (session : Session) {f : Strict}

/-- Where the allowance covers all rectangles, no function fails for want of it. -/
theorem not_refused (ranges : List Range) (admits : f.arity.Admits ranges.length)
    (fits : ∀ range ∈ ranges, range.Fits)
    (covered : cellsOf ranges ≤ session.meter.remaining.toNat) :
    ¬ Refused (session.evaluate (.call f.name (ranges.map .range))).1 := by
  rw [session.evaluate_call_covered ranges admits covered]
  have wellFormed : ∀ value ∈ ranges.map session.grid.typedRange, value.WellFormed := by
    intro value listed
    obtain ⟨range, among, rfl⟩ := List.mem_map.mp listed
    exact session.grid.wellFormed_typedRange (fits range among)
  rintro ⟨range, cells, left, fails⟩
  exact fails_apply wellFormed (by rwa [List.length_map]) _ fails

theorem not_refused_one (aggregate : f ∈ Strict.aggregates) {range : Range}
    (fits : range.Fits) (covered : range.cellCount ≤ session.meter.remaining) :
    ¬ Refused (session.evaluate (.call f.name [.range range])).1 :=
  session.not_refused [range] (f.admits_of_aggregate aggregate Nat.one_pos)
    (List.forall_mem_singleton.mpr fits) (UInt64.le_iff_toNat_le.mp covered)

section Parts

variable {whole first second : Range} (parts : whole.Parts first second)
  (aggregate : f ∈ Strict.aggregates)

include parts aggregate

theorem evaluate_parts_refused (beyond : session.meter.remaining < whole.cellCount) :
    Refused (session.evaluate (.call f.name [.range whole])).1 ∧
      Refused (session.evaluate (.call f.name [.range first, .range second])).1 := by
  have more : session.meter.remaining.toNat < cellsOf [whole] := UInt64.lt_iff_toNat_lt.mp beyond
  exact ⟨session.evaluate_call_refused [whole]
      (f.admits_of_aggregate aggregate Nat.one_pos) more,
    session.evaluate_call_refused [first, second]
      (f.admits_of_aggregate aggregate Nat.two_pos) (parts.cellsOf_eq.symm ▸ more)⟩

/-- Both calls draw the same, and the function gets the values of the parts in place of those of
the whole. -/
theorem evaluate_parts_covered (covered : whole.cellCount ≤ session.meter.remaining) :
    let values (ranges : List Range) := (ranges.map session.grid.table).map Value.array
    let after : Session := { session with meter := session.meter.drawAll [whole] }
    session.evaluate (.call f.name [.range whole]) = (f.apply (values [whole]), after) ∧
      session.evaluate (.call f.name [.range first, .range second]) =
        (f.apply (values [first, second]), after) := by
  intro values after
  have enough : cellsOf [whole] ≤ session.meter.remaining.toNat := UInt64.le_iff_toNat_le.mp covered
  have ofWhole := session.evaluate_call_covered [whole]
    (f.admits_of_aggregate aggregate Nat.one_pos) enough
  have ofParts := session.evaluate_call_covered [first, second]
    (f.admits_of_aggregate aggregate Nat.two_pos) (parts.cellsOf_eq.symm ▸ enough)
  have both : ∀ range ∈ [first, second], range.Fits := by
    simpa using ⟨parts.first_fits, parts.second_fits⟩
  rw [session.grid.map_typedRange (List.forall_mem_singleton.mpr parts.fits)] at ofWhole
  rw [session.grid.map_typedRange both] at ofParts
  rw [parts.drawAll_eq] at ofParts
  exact ⟨ofWhole, ofParts⟩

end Parts

/-- A function of all entries gives the same value or the same error for a rectangle and for the
two parts above and below a line, and leaves the same of the allowance. If it does not depend on
the order of the entries, this also holds of the parts left and right of a line, up to the sign of
a zero. Neither call is refused if the allowance covers the rectangle, and both are if it does
not. -/
theorem cut_inert (aggregate : f ∈ Strict.aggregates) {whole : Range} (fits : whole.Fits) :
    let call (ranges : List Range) := session.evaluate (.call f.name (ranges.map .range))
    (∀ upper lower, whole.CutAcross upper lower →
      (whole.cellCount ≤ session.meter.remaining →
        ¬ Refused (call [whole]).1 ∧ call [upper, lower] = call [whole]) ∧
      (session.meter.remaining < whole.cellCount →
        Refused (call [whole]).1 ∧ Refused (call [upper, lower]).1)) ∧
    ∀ left right, whole.CutDown left right → f ∈ Strict.unordered →
      (whole.cellCount ≤ session.meter.remaining →
        ¬ Refused (call [whole]).1 ∧
        (call [left, right]).1.map Value.unsignedZero =
          (call [whole]).1.map Value.unsignedZero ∧
        (call [left, right]).2 = (call [whole]).2) ∧
      (session.meter.remaining < whole.cellCount →
        Refused (call [whole]).1 ∧ Refused (call [left, right]).1) := by
  intro call
  have granted := session.not_refused_one aggregate fits
  refine ⟨fun upper lower cut => ?_, fun left right cut unordered => ?_⟩
  · have parts := cut.parts fits
    refine ⟨fun covered => ⟨granted covered, ?_⟩, session.evaluate_parts_refused parts aggregate⟩
    obtain ⟨ofWhole, ofParts⟩ := session.evaluate_parts_covered parts aggregate covered
    have same : filledEntries ([upper, lower].map session.grid.table) =
        filledEntries ([whole].map session.grid.table) := by
      rw [Grid.filledEntries_table, Grid.filledEntries_table]
      simp [cut.cells_eq]
    rw [Aggregate.apply_congr aggregate same] at ofParts
    exact ofParts.trans ofWhole.symm
  · have parts := cut.parts fits
    refine ⟨fun covered => ⟨granted covered, ?_⟩, session.evaluate_parts_refused parts aggregate⟩
    obtain ⟨ofWhole, ofParts⟩ := session.evaluate_parts_covered parts aggregate covered
    have perm : (filledEntries ([left, right].map session.grid.table)).Perm
        (filledEntries ([whole].map session.grid.table)) := by
      rw [Grid.filledEntries_table, Grid.filledEntries_table]
      refine List.Perm.filter _ (List.Perm.map _ ?_)
      simpa using parts.cells
    have wellFormed : ∀ value ∈ ([left, right].map session.grid.table).map Value.array,
        value.WellFormed := by
      have both : ∀ range ∈ [left, right], range.Fits := by
        simpa using ⟨parts.first_fits, parts.second_fits⟩
      rw [← session.grid.map_typedRange both, List.forall_mem_map]
      exact fun range listed => session.grid.wellFormed_typedRange (both range listed)
    have same := Aggregate.apply_perm unordered (isFinite_numericEntries wellFormed) perm
    change call [whole] = _ at ofWhole
    change call [left, right] = _ at ofParts
    rw [ofWhole, ofParts]
    exact ⟨same, rfl⟩

/-- A table that a line cuts above and below or left and right, beside a text. -/
theorem cut_inert_quarters :
    let session : Session := .start (.ofValues [["1", "x"], ["2", "3"]]) .standard
    let call (ranges : List Range) := session.evaluate (.call "SUM" (ranges.map .range))
    let whole : Range := .spanning (.relative 0 0) (.relative 1 1)
    let upper : Range := .spanning (.relative 0 0) (.relative 0 1)
    let lower : Range := .spanning (.relative 1 0) (.relative 1 1)
    Strict.sum ∈ Strict.aggregates ∧ whole.Fits ∧ call [upper, lower] = call [whole] := by
  intro session call whole upper lower
  have aggregate : Strict.sum ∈ Strict.aggregates := by decide
  have fits : whole.Fits := .of_inSheet ⟨by decide, by decide⟩ ⟨by decide, by decide⟩
  have cut : whole.CutAcross upper lower :=
    ⟨⟨by decide, by decide⟩, ⟨by decide, by decide⟩, rfl, rfl, rfl, ⟨rfl, rfl⟩, ⟨rfl, rfl⟩⟩
  exact ⟨aggregate, fits,
    (((session.cut_inert aggregate fits).1 upper lower cut).1 (by decide)).2⟩

/-- Blank cells around a rectangle make no difference to a function of all entries, as long as the
allowance covers them. -/
theorem margin_inert (aggregate : f ∈ Strict.aggregates) {inner larger : Range}
    (ordered : inner.Ordered) (fits : larger.Fits)
    (inside : ∀ row column, inner.Covers row column → larger.Covers row column)
    (blank : ∀ row column, larger.Covers row column → ¬ inner.Covers row column →
      session.grid.valueAt row column = "")
    (covered : larger.cellCount ≤ session.meter.remaining) :
    let call (range : Range) := (session.evaluate (.call f.name [.range range])).1
    ¬ Refused (call inner) ∧ call inner = call larger := by
  intro call
  have less := UInt64.le_trans (Range.cellCount_le_of_inside ordered fits inside) covered
  have same := session.grid.filledEntries_of_margin inside blank
  have value {range : Range} (fits : range.Fits)
      (covered : range.cellCount ≤ session.meter.remaining) :
      call range = f.apply (([range].map session.grid.table).map .array) := by
    rw [← session.grid.map_typedRange (List.forall_mem_singleton.mpr fits)]
    exact congrArg Prod.fst (session.evaluate_call_covered [range]
      (f.admits_of_aggregate aggregate Nat.one_pos) (UInt64.le_iff_toNat_le.mp covered))
  have inner_fits : inner.Fits := .of_inside ordered fits inside
  refine ⟨session.not_refused_one aggregate inner_fits less, ?_⟩
  rw [value inner_fits less, value fits covered, Aggregate.apply_congr aggregate same]

/-- A margin on all four sides, past the end of the rows. -/
theorem margin_inert_centre :
    let session : Session := .start (.ofValues [["", ""], ["", "1", ""], []]) .standard
    let call (range : Range) := (session.evaluate (.call "COUNT" [.range range])).1
    let inner : Range := .spanning (.relative 1 1) (.relative 1 1)
    let larger : Range := .spanning (.relative 0 0) (.relative 3 2)
    ¬ Refused (call inner) ∧ call inner = call larger := by
  intro session call inner larger
  have fits : larger.Fits := .of_inSheet ⟨by decide, by decide⟩ ⟨by decide, by decide⟩
  have inside (row : UInt32) (column : UInt16) (covers : inner.Covers row column) :
      larger.Covers row column := by
    obtain ⟨⟨top, bottom⟩, left, right⟩ := covers
    exact ⟨⟨UInt32.le_trans (by decide) top, UInt32.le_trans bottom (by decide)⟩,
      UInt16.le_trans (by decide) left, UInt16.le_trans right (by decide)⟩
  have blank (row : UInt32) (column : UInt16) (covers : larger.Covers row column)
      (outside : ¬ inner.Covers row column) : session.grid.valueAt row column = "" := by
    obtain ⟨⟨-, bottom⟩, -, right⟩ := covers
    have beside : ¬ (row.toNat = 1 ∧ column.toNat = 1) := by
      rintro ⟨sameRow, sameColumn⟩
      obtain rfl : row = 1 := UInt32.toNat_inj.mp sameRow
      obtain rfl : column = 1 := UInt16.toNat_inj.mp sameColumn
      exact outside ⟨⟨by decide, by decide⟩, by decide, by decide⟩
    rw [UInt32.le_iff_toNat_le] at bottom
    rw [UInt16.le_iff_toNat_le] at right
    change row.toNat ≤ 3 at bottom
    change column.toNat ≤ 2 at right
    rw [Grid.valueAt_eq]
    generalize row.toNat = i at *
    generalize column.toNat = j at *
    interval_cases i <;> interval_cases j <;> first | rfl | exact absurd ⟨rfl, rfl⟩ beside
  exact session.margin_inert (f := .count) (by decide) ⟨by decide, by decide⟩ fits inside blank
    (by decide)

end Session

end Spreadsheet
