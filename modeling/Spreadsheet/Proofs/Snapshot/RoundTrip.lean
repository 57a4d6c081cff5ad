import Spreadsheet.Proofs.Snapshot.Record
import Spreadsheet.Snapshot.Grid
import Spreadsheet.Snapshot.Outcome
import Spreadsheet.Snapshot.Reference

/-! Snapshots lose nothing. Each type of value is restored from its document, and the document from
its text. -/

namespace Spreadsheet

open Spreadsheet.Json

theorem Address.restores (address : Address) : Restores toJson ofJson? address where
  read_write := by
    have row := (restores_below address.row.toNat_lt).read_write
    have column := (restores_below address.column.toNat_lt).read_write
    unfold toJson ofJson?
    rw [fields?_ofFields (by decide)]
    · simp [required, withDefault, boolean?, row, column]
    · rfl
  spelled := by
    refine spelled_ofFields ?_
    simp [spelled_ofNat, Spelled.boolean]
  ne_null := nofun

theorem Range.restores (range : Range) : Restores toJson ofJson? range where
  read_write := by
    unfold toJson ofJson?
    rw [fields?_ofFields (by decide)]
    · simp [required, range.first.restores.read_write, range.last.restores.read_write]
    · rfl
  spelled := by
    refine spelled_ofFields ?_
    simp [range.first.restores.spelled, range.last.restores.spelled]
  ne_null := nofun

theorem HorizontalAlignment.ofWord?_word (align : HorizontalAlignment) :
    ofWord? align.word = some align := by
  cases align <;> decide

theorem VerticalAlignment.ofWord?_word (align : VerticalAlignment) :
    ofWord? align.word = some align := by
  cases align <;> decide

def CellFormat.sizes (format : CellFormat) : List Float32 := format.fontSize.toList

def Cell.sizes (cell : Cell) : List Float32 := cell.format.toList.flatMap CellFormat.sizes

def Grid.sizes (grid : Grid) : List Float32 := grid.rows.flatten.flatMap Cell.sizes

theorem CellFormat.restores {format : CellFormat}
    (reads : ∀ size ∈ format.sizes, single? (ofSingle size) = some size) :
    Restores toJson ofJson? format := by
  have boolean (b : Option Bool) : ∀ y ∈ b, Restores .boolean boolean? y :=
    fun y _ => restores_boolean y
  have text (s : Option String) : ∀ y ∈ s, Restores ofText text? y := fun y _ => restores_text y
  have size : ∀ y ∈ format.fontSize, Restores ofSingle single? y :=
    fun y found => restores_single (reads y (Option.mem_toList.mpr found))
  have horizontal : ∀ y ∈ format.textAlign, Restores (fun align => ofText align.word)
      (fun json => json.case?.bind HorizontalAlignment.ofWord?) y :=
    fun y _ => restores_word y.ofWord?_word
  have vertical : ∀ y ∈ format.verticalAlign, Restores (fun align => ofText align.word)
      (fun json => json.case?.bind VerticalAlignment.ofWord?) y :=
    fun y _ => restores_word y.ofWord?_word
  refine ⟨?_, spelled_ofFields ?_, nofun⟩
  · unfold toJson ofJson?
    rw [fields?_ofFields (by decide)]
    · simp [optional_map (boolean _), optional_map (text _), optional_map size,
        optional_map horizontal, optional_map vertical]
    · rfl
  · simp only [List.forall_mem_cons]
    exact ⟨spelled_map (boolean _), spelled_map (boolean _), spelled_map (boolean _),
      spelled_map (text _), spelled_map (text _), spelled_map (text _), spelled_map size,
      spelled_map horizontal, spelled_map vertical, List.forall_mem_nil _⟩

theorem Cell.restores {cell : Cell}
    (reads : ∀ size ∈ cell.sizes, single? (ofSingle size) = some size) :
    Restores toJson ofJson? cell := by
  have value := restores_text cell.value
  have formula : ∀ y ∈ cell.formula, Restores ofText text? y := fun y _ => restores_text y
  have format : ∀ y ∈ cell.format, Restores CellFormat.toJson CellFormat.ofJson? y :=
    fun y found => CellFormat.restores fun size listed =>
      reads size (List.mem_flatMap.mpr ⟨y, Option.mem_toList.mpr found, listed⟩)
  refine ⟨?_, spelled_ofFields ?_, nofun⟩
  · unfold toJson ofJson?
    rw [fields?_ofFields (by decide)]
    · simp [withDefault, value.read_write, optional_map formula, optional_map format]
    · rfl
  · simp only [List.forall_mem_cons]
    exact ⟨by simpa using value.spelled, spelled_map formula, spelled_map format,
      List.forall_mem_nil _⟩

theorem Grid.restores {grid : Grid}
    (reads : ∀ size ∈ grid.sizes, single? (ofSingle size) = some size) :
    Restores toJson ofJson? grid := by
  have rows : ∀ cells ∈ grid.rows,
      Restores (fun cells : List Cell => .array (cells.map Cell.toJson))
        (fun row => row.items?.bind (·.mapM Cell.ofJson?)) cells :=
    fun cells row => restores_items fun cell member => Cell.restores fun size listed =>
      reads size (List.mem_flatMap.mpr ⟨cell, List.mem_flatten.mpr ⟨cells, row, member⟩, listed⟩)
  obtain ⟨read, spelled, filled⟩ := restores_items rows
  refine ⟨?_, spelled, filled⟩
  exact congrArg (fun rows : Option _ => rows.bind fun rows => some (Grid.mk rows)) read

theorem ErrorTag.restores (tag : ErrorTag) : Restores toJson ofJson? tag :=
  restores_word (by cases tag <;> decide)

theorem ErrorDisplay.ofWord?_word (display : ErrorDisplay) :
    ofWord? display.word = some display := by
  cases display <;> decide

theorem Options.limit?_ofNat (limit : UInt64) : limit? (ofNat limit.toNat) = some limit := by
  unfold limit?
  rw [(restores_below limit.toNat_lt).read_write, Option.map_some, UInt64.ofNat_toNat]

theorem Options.restores (options : Options) : Restores toJson ofJson? options where
  read_write := by
    have display := (restores_word options.errorDisplay.ofWord?_word).read_write
    unfold toJson ofJson?
    rw [fields?_ofFields (by decide)]
    · simp [withDefault, display, limit?_ofNat]
    · rfl
  spelled := by
    have display := (restores_word options.errorDisplay.ofWord?_word).spelled
    refine spelled_ofFields ?_
    simp [spelled_ofNat, display]
  ne_null := nofun

theorem Outcome.ofJson?_tagged (kind value : Json) :
    ofJson? (ofMembers [("kind", kind), ("value", value)]) =
      (kind? kind).bind fun kind => ofKind? kind value := by
  change (ofMembers [("kind", kind), ("value", value)]).members?.bind _ = _
  rw [members?_ofMembers]
  rfl

theorem Outcome.restores (outcome : Outcome) : Restores toJson ofJson? outcome := by
  have kind (name : String) : kind? (ofText name) = Kind.ofWord? name :=
    congrArg (Option.bind · Kind.ofWord?) (text?_ofText name)
  refine ⟨?_, ?_, ?_⟩
  · cases outcome with
    | success text => simp [toJson, ofJson?_tagged, kind, Kind.ofWord?, ofKind?, text?_ofText]
    | failure tag =>
        simp [toJson, ofJson?_tagged, kind, Kind.ofWord?, ofKind?, tag.restores.read_write]
  · cases outcome with
    | success text =>
        refine spelled_ofMembers ?_
        simp [(restores_text _).spelled]
    | failure tag =>
        refine spelled_ofMembers ?_
        simp [(restores_text _).spelled, tag.restores.spelled]
  · cases outcome <;> nofun

/-- How the values of a type stand in documents. -/
structure Snapshot (α : Type) where
  toJson : α → Json
  ofJson? : Json → Option α
  /-- The font sizes within a value. -/
  sizes : α → List Float32

namespace Snapshot

def grid : Snapshot Grid := ⟨Grid.toJson, Grid.ofJson?, Grid.sizes⟩

def cell : Snapshot Cell := ⟨Cell.toJson, Cell.ofJson?, Cell.sizes⟩

def format : Snapshot CellFormat := ⟨CellFormat.toJson, CellFormat.ofJson?, CellFormat.sizes⟩

def address : Snapshot Address := ⟨Address.toJson, Address.ofJson?, fun _ => []⟩

def range : Snapshot Range := ⟨Range.toJson, Range.ofJson?, fun _ => []⟩

def errorTag : Snapshot ErrorTag := ⟨ErrorTag.toJson, ErrorTag.ofJson?, fun _ => []⟩

def options : Snapshot Options := ⟨Options.toJson, Options.ofJson?, fun _ => []⟩

def outcome : Snapshot Outcome := ⟨Outcome.toJson, Outcome.ofJson?, fun _ => []⟩

section Text

variable {α : Type} (snapshot : Snapshot α)

def write (x : α) : String := (snapshot.toJson x).toText

def read? (text : String) : Option α := (Json.read? text.toList).bind snapshot.ofJson?

/-- The text that is written of the value in a text. -/
def normalize? (text : String) : Option String := (snapshot.read? text).map snapshot.write

/-- A value whose font sizes are all of a kind is read from what is written of it. A text of such
a value, however it is laid out, has the normal form that is written of the value; this is its own
normal form. -/
structure Lossless (kind : Float32 → Prop) : Prop where
  read?_write : ∀ x, (∀ size ∈ snapshot.sizes x, kind size) →
    snapshot.read? (snapshot.write x) = some x
  normalize?_write : ∀ text x, snapshot.read? text = some x →
    (∀ size ∈ snapshot.sizes x, kind size) →
      snapshot.read? (snapshot.write x) = some x ∧
        snapshot.normalize? text = some (snapshot.write x) ∧
          snapshot.normalize? (snapshot.write x) = some (snapshot.write x)

variable {snapshot}

theorem read?_write_of_restores {x : α}
    (restores : Restores snapshot.toJson snapshot.ofJson? x) :
    snapshot.read? (snapshot.write x) = some x := by
  unfold read? write toText
  rw [String.toList_ofList, read?_print restores.spelled, Option.bind_some, restores.read_write]

theorem lossless_of_restores {kind : Float32 → Prop}
    (restores : ∀ x, (∀ size ∈ snapshot.sizes x, kind size) →
      Restores snapshot.toJson snapshot.ofJson? x) : snapshot.Lossless kind where
  read?_write x sizes := read?_write_of_restores (restores x sizes)
  normalize?_write text x reads sizes := by
    have written := read?_write_of_restores (restores x sizes)
    unfold normalize?
    rw [reads, written]
    exact ⟨rfl, rfl, rfl⟩

end Text

/-- No snapshot loses anything, as long as the font sizes are numbers that are read back. -/
theorem lossless {kind : Float32 → Prop}
    (reads : ∀ size, kind size → single? (ofSingle size) = some size) :
    grid.Lossless kind ∧ cell.Lossless kind ∧ format.Lossless kind ∧ address.Lossless kind ∧
      range.Lossless kind ∧ errorTag.Lossless kind ∧ options.Lossless kind ∧
      outcome.Lossless kind := by
  refine ⟨lossless_of_restores fun grid sizes => Grid.restores fun size listed => ?_,
    lossless_of_restores fun cell sizes => Cell.restores fun size listed => ?_,
    lossless_of_restores fun format sizes => CellFormat.restores fun size listed => ?_,
    lossless_of_restores fun address _ => address.restores,
    lossless_of_restores fun range _ => range.restores,
    lossless_of_restores fun tag _ => tag.restores,
    lossless_of_restores fun options _ => options.restores,
    lossless_of_restores fun outcome _ => outcome.restores⟩
  all_goals exact reads size (sizes size listed)

theorem lossless_twelveAndHalf :
    (∀ size : Float32, size = 12.5 → single? (ofSingle size) = some size) ∧
      grid.read? (grid.write ⟨[[], [.plain "\"\\\n", ⟨"3", some "=1+2",
        some { CellFormat.empty with fontSize := some 12.5 }⟩]]⟩) =
          some ⟨[[], [.plain "\"\\\n", ⟨"3", some "=1+2",
            some { CellFormat.empty with fontSize := some 12.5 }⟩]]⟩ := by
  have reads : ∀ size : Float32, size = 12.5 → single? (ofSingle size) = some size := by
    rintro _ rfl
    have spelled : ofSingle 12.5 = .number ['1', '2', '.', '5'] := by rfl
    have scaled : scaleByTen (Binary.ofWord (Binary.double.ofRatio 125 1)) (-1) = some 12.5 := by
      rw [scaleByTen]
      decide +kernel
    rw [spelled]
    change (scaleByTen (Binary.ofWord (Binary.double.ofRatio 125 1)) (-1)).bind _ = _
    rw [scaled]
    decide +kernel
  refine ⟨reads, (lossless reads).1.read?_write _ fun size listed => ?_⟩
  simpa [grid, Grid.sizes, Cell.sizes, CellFormat.sizes, Cell.plain, CellFormat.empty] using listed

end Snapshot

end Spreadsheet
