import Spreadsheet.Proofs.Evaluation.Allowance
import Spreadsheet.Proofs.Formula.WellFormed
import Spreadsheet.Proofs.Grid.Values
import Spreadsheet.Proofs.Snapshot.RoundTrip

/-! Evaluation reads nothing but the texts of the cells that a formula mentions, as long as rows
that a grid lacks are read as long as blank ones. -/

namespace Spreadsheet

open Spreadsheet.Formula

namespace Formula.Expr

/-- A position named as a cell, or within a rectangle that is named. -/
def Mentions (expr : Expr) (row : UInt32) (column : UInt16) : Prop :=
  (∃ address, .cell address ∈ expr.subtrees ∧ address.row = row ∧ address.column = column) ∨
    ∃ range, .range range ∈ expr.subtrees ∧ range.Covers row column

/-- The columns of each rectangle that a tree names are counted rightly. -/
def EvenRanges (expr : Expr) : Prop := ∀ range, .range range ∈ expr.subtrees → range.EvenRows

theorem WellFormed.evenRanges {expr : Expr} (formed : expr.WellFormed) : expr.EvenRanges := by
  intro range listed
  obtain ⟨ordered, -, inside⟩ := formed _ listed
  exact (Range.Fits.of_inSheet ordered inside).evenRows

end Formula.Expr

/-- Two grids show the same texts at all positions that a tree mentions. -/
def Grid.ShowsAlike (expr : Expr) (grid other : Grid) : Prop :=
  ∀ row column, expr.Mentions row column → grid.valueAt row column = other.valueAt row column

namespace Grid

theorem table_congr {grid other : Grid} {range : Range}
    (same : ∀ row column, range.Covers row column →
      grid.valueAt row column = other.valueAt row column) :
    grid.table range = other.table range := by
  refine List.map_congr_left fun row inRows => List.map_congr_left fun column inColumns => ?_
  exact congrArg Value.ofCellText
    (same row column ⟨Range.mem_rows.mp inRows, Range.mem_columns.mp inColumns⟩)

theorem ShowsAlike.alike {expr : Expr} {grid other : Grid} (shows : ShowsAlike expr grid other)
    (even : expr.EvenRanges) :
    Source.Alike (· = ·) grid.source other.source expr.subtrees := by
  constructor
  · intro address mentioned
    exact congrArg Value.ofCellText
      (shows address.row address.column (.inl ⟨address, mentioned, rfl, rfl⟩))
  · rintro range mentioned meter _ rfl
    have same : grid.table range = other.table range :=
      table_congr fun row column covered => shows row column (.inr ⟨range, mentioned, covered⟩)
    rw [source_range_run, source_range_run, grid.typedRange_eq_table (even range mentioned),
      other.typedRange_eq_table (even range mentioned), same]
    exact ⟨rfl, rfl⟩

theorem ShowsAlike.of_shown {expr : Expr} {grid other : Grid} (same : grid.shown = other.shown) :
    ShowsAlike expr grid other := by
  intro row column _
  rw [valueAt_eq_shown, valueAt_eq_shown, same]

theorem ShowsAlike.write {expr : Expr} {row : UInt32} {column : UInt16}
    (unmentioned : ¬ expr.Mentions row column) (grid : Grid) (cell : Cell) :
    ShowsAlike expr grid (grid.write row column cell) := by
  intro otherRow otherColumn mentioned
  rw [valueAt_write, if_neg]
  rintro ⟨rfl, rfl⟩
  exact unmentioned mentioned

/-- Rows without cells. -/
def bare (rows : Nat) : Grid := ⟨List.replicate rows []⟩

theorem shown_bare (rows : Nat) : (bare rows).shown = [] := by
  change ((List.replicate rows []).map _).rdropWhile _ = []
  rw [List.map_replicate, List.rdropWhile_eq_nil_iff]
  intro row listed
  rw [List.eq_of_mem_replicate listed]
  rfl

end Grid

namespace Session

def Matches (expr : Expr) (options : Options) (grid other : Grid) : Prop :=
  ((start grid options).evaluate expr).1 = ((start other options).evaluate expr).1 ∧
    ((start grid options).evaluate expr).2.remaining =
      ((start other options).evaluate expr).2.remaining

/-- Grids that show the same texts where a tree mentions cells give it one result. So what counts
of a grid is only what it shows, and of that nothing that the tree does not mention. -/
structure Local (expr : Expr) : Prop where
  alike : ∀ options grid other, Grid.ShowsAlike expr grid other → Matches expr options grid other
  shown : ∀ options (grid other : Grid), grid.shown = other.shown →
    Matches expr options grid other
  unmentioned : ∀ options (grid : Grid) row column cell, ¬ expr.Mentions row column →
    Matches expr options grid (grid.write row column cell)

theorem Local.of_evenRanges {expr : Expr} (even : expr.EvenRanges) : Local expr := by
  have alike (options : Options) (grid other : Grid) (shows : Grid.ShowsAlike expr grid other) :
      Matches expr options grid other := by
    have ends := Source.evaluate_agrees expr (shows.alike even) (.fresh options.maxRangeCells)
      (.fresh options.maxRangeCells) rfl
    exact ⟨ends.1, congrArg (fun meter : Meter => meter.remaining.toNat) ends.2⟩
  exact ⟨alike, fun options grid other same => alike options grid other (.of_shown same),
    fun options grid _ _ cell unmentioned => alike options grid _ (.write unmentioned grid cell)⟩

/-- The row at the top is read as long as columns are counted from a grid that lacks it, and as
long as there are columns from one that has it. -/
theorem evenRows_of_matches {range : Range} {options : Options}
    (allowed : range.cellCount ≤ options.maxRangeCells)
    (same : Matches (.range range) options (.bare 0) (.bare (range.first.row.toNat + 1))) :
    range.EvenRows := by
  intro rows
  have reads (grid : Grid) : ((start grid options).evaluate (.range range)).1 =
      .ok (grid.typedRange range) := by
    change ((grid.source.range range).run (.fresh options.maxRangeCells)).1 = _
    rw [grid.source_range_run, Meter.remaining_fresh, if_neg (UInt64.not_lt.mpr allowed)]
  have values : (Grid.bare 0).typedRange range =
      (Grid.bare (range.first.row.toNat + 1)).typedRange range :=
    Except.ok.inj ((reads _).symm.trans (same.1.trans (reads _)))
  have top : range.first.row ∈ range.rows := by
    obtain ⟨row, listed⟩ := List.exists_mem_of_ne_nil _ rows
    have between := Range.mem_rows.mp listed
    exact Range.mem_rows.mpr ⟨UInt32.le_refl _, UInt32.le_trans between.1 between.2⟩
  have line := List.map_inj_left.mp (Value.array.inj values) _ top
  have present : (Grid.bare (range.first.row.toNat + 1)).row? range.first.row = some [] :=
    List.getElem?_replicate_of_lt (Nat.lt_succ_self _)
  rw [present] at line
  simpa [Grid.row?, Grid.bare, Grid.typedRow] using congrArg List.length line

/-- A tree is evaluated from the texts of the cells that it mentions alone if the columns of all
its rectangles are counted rightly. They are in every tree that is read from a formula. Of a
rectangle by itself this is true just if its columns are. -/
theorem evaluate_local (expr : Expr) :
    (expr.EvenRanges → Local expr) ∧
      (∀ (reading : Options) (formula : String), reading.parse formula = .ok expr → Local expr) ∧
      ∀ range, expr = .range range → (Local expr ↔ range.EvenRows) := by
  refine ⟨.of_evenRanges, fun reading formula parses =>
    .of_evenRanges (wellFormed_of_parse parses).evenRanges, ?_⟩
  rintro range rfl
  refine ⟨fun isLocal => ?_, fun even => .of_evenRanges fun other listed => ?_⟩
  · let options : Options := { Options.standard with maxRangeCells := range.cellCount }
    have shown : (Grid.bare 0).shown = (Grid.bare (range.first.row.toNat + 1)).shown := by
      rw [Grid.shown_bare, Grid.shown_bare]
    exact evenRows_of_matches (UInt64.le_refl _) (isLocal.shown options _ _ shown)
  · obtain rfl : other = range := by simpa [Expr.subtrees] using listed
    exact even

/-- Formulas behind the texts, and blanks behind and below them, are not read. -/
theorem evaluate_local_padded :
    let expr : Expr := .binary .multiply
      (.call "SUM" [.range (.spanning (.relative 0 0) (.relative 2 1))]) (.cell (.relative 0 2))
    let grid : Grid := .ofValues [["1", "2", "3"], ["4"]]
    let other : Grid := ⟨[[.plain "1", .computed "2" "=1+1", .plain "3", .plain ""],
      [.plain "4"], [.plain ""]]⟩
    Options.standard.parse "=SUM(A1:B3)*C1" = .ok expr ∧ grid.shown = other.shown ∧
      Matches expr .standard grid other := by
  intro expr grid other
  have parses : Options.standard.parse "=SUM(A1:B3)*C1" = .ok expr := by cbv
  have shown : grid.shown = other.shown := by decide
  exact ⟨parses, shown, ((evaluate_local expr).2.1 _ _ parses).shown _ _ _ shown⟩

/-- From a grid without cells a row that has all columns is read with no entry, and one between
crossed corners with very many. Where there is a row, however blank, it is read with all of them
there and with none here. -/
theorem evaluate_not_local :
    let whole : Range := .spanning (.relative 0 0) (.relative 0 65535)
    let crossed : Range := ⟨.relative 0 5, .relative 0 0⟩
    Snapshot.range.read? (Snapshot.range.write crossed) = some crossed ∧
      ∀ range ∈ [whole, crossed], Grid.ShowsAlike (.range range) (.bare 0) (.bare 1) ∧
        ¬ Matches (.range range) .standard (.bare 0) (.bare 1) := by
  intro whole crossed
  have shows (range : Range) : Grid.ShowsAlike (.range range) (.bare 0) (.bare 1) :=
    .of_shown (by rw [Grid.shown_bare, Grid.shown_bare])
  have differs {range : Range} (top : range.first.row = 0)
      (allowed : range.cellCount ≤ Options.standard.maxRangeCells) (uneven : ¬ range.EvenRows) :
      ¬ Matches (.range range) .standard (.bare 0) (.bare 1) := fun same =>
    uneven (evenRows_of_matches allowed (by rw [top]; exact same))
  have wide : ¬ whole.EvenRows := by
    rw [Range.evenRows_iff]
    decide
  have reversed : ¬ crossed.EvenRows := by
    rw [Range.evenRows_iff]
    decide
  refine ⟨Snapshot.read?_write_of_restores crossed.restores, List.forall_mem_cons.mpr
    ⟨⟨shows whole, differs rfl (by decide) wide⟩, List.forall_mem_singleton.mpr
      ⟨shows crossed, differs rfl (by decide) reversed⟩⟩⟩

end Session

end Spreadsheet
