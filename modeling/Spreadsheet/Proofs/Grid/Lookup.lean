import Spreadsheet.Proofs.Builtin.Approximate
import Spreadsheet.Proofs.Decimal.Case
import Spreadsheet.Proofs.Grid.Rectangle
import Spreadsheet.Proofs.Grid.Stored

namespace Spreadsheet

open Spreadsheet.Text

namespace Value

theorem IsEntry.isNaN {value : Value} (entry : value.IsEntry) : value.isNaN = false := by
  cases value with
  | number n => exact Binary.isNaN_of_isFinite entry
  | text | boolean | array | empty => rfl

end Value

namespace Grid

/-- A range is read if as many cells are still allowed. -/
theorem reads_iff (grid : Grid) {range : Range} {meter : Meter} {rows : List (List Value)} :
    ((grid.meteredRange range).run meter).1 = .ok (.array rows) ↔
      range.cellCount ≤ meter.remaining ∧ grid.typedRange range = .array rows := by
  have run := grid.source_range_run range meter
  change (grid.meteredRange range).run meter = _ at run
  rw [run, ← UInt64.not_lt]
  split
  next exceeds => exact iff_of_false nofun fun covered => covered.1 exceeds
  next covered => rw [and_iff_right covered, Except.ok.injEq]

end Grid

namespace Lookup

/-- A key of the kind of the value that is neither less nor greater. -/
def Equal (key value : Value) : Prop :=
  comparable key value = true ∧ Value.compare key value = .eq

theorem spells_eq_false {s : String} (none : Decimal.readNumber? s.toList = none) (n : Float) :
    spells s n = false := by
  unfold spells
  rw [none]

section Keys

variable {key value : Value} (entry : key.IsEntry)

include entry

/-- Equal to the value of a cell are numbers, and texts that may be in cells themselves. -/
theorem Equal.cases (equal : Equal key value) :
    (∃ n, value = .number n) ∨ ∃ t, value = .text t ∧ (Value.text t).IsEntry := by
  obtain ⟨kind, same⟩ := equal
  cases key with
  | number m =>
      cases value with
      | number n => exact .inl ⟨n, rfl⟩
      | text | boolean | array | empty => cases kind
  | text s =>
      cases value with
      | text t =>
          have alike : lower s.toList = lower t.toList :=
            beq_iff_eq.mp (Value.compareTexts_eq_iff.mp same)
          refine .inr ⟨t, rfl, ?_, ?_⟩
          · rintro rfl
            exact entry.1 (String.toList_eq_nil_iff.mp (eq_nil_of_lower_eq_nil alike))
          · by_contra reads
            obtain ⟨n, reads⟩ := Option.ne_none_iff_exists'.mp reads
            have read := Decimal.readNumber?_of_lower_eq reads alike.symm
            rw [entry.2] at read
            cases read
      | number | boolean | array | empty => cases kind
  | boolean | array => exact entry.elim
  | empty => cases kind

theorem sameKey_number {n : Float} (isNumber : n.isNaN = false) :
    sameKey key (.number n) = true ↔ Equal key (.number n) := by
  cases key with
  | number m =>
      exact (Value.compareNumbers_eq_iff entry.isNaN isNumber).symm.trans
        (and_iff_right rfl).symm
  | text s => exact iff_of_false (ne_true_of_eq_false (spells_eq_false entry.2 n)) nofun
  | boolean | array | empty => exact iff_of_false nofun nofun

theorem sameKey_text {t : String} (plain : (Value.text t).IsEntry) :
    sameKey key (.text t) = true ↔ Equal key (.text t) := by
  cases key with
  | text s => exact Value.compareTexts_eq_iff.symm.trans (and_iff_right rfl).symm
  | number n => exact iff_of_false (ne_true_of_eq_false (spells_eq_false plain.2 n)) nofun
  | empty =>
      refine iff_of_false ?_ nofun
      change ¬ t.isEmpty = true
      rw [String.isEmpty_iff]
      exact plain.1
  | boolean | array => exact iff_of_false nofun nofun

end Keys

section Places

variable {keys : List Value} {value key : Value} {i : Nat}
  (entries : ∀ key ∈ keys, key.IsEntry) (isNumber : value.isNaN = false)
  (strict : (kindred keys value).IsChain fun a b => Value.compare a b = .lt)
  (there : keys[i]? = some key) (equal : Equal key value)

include entries isNumber strict there equal

/-- Where the keys increase, what comes behind an equal one is greater. -/
theorem isGreatest_of_equal : IsGreatest (notGreater keys value) i := by
  have numbers (key : Value) (listed : key ∈ keys) := (entries key listed).isNaN
  have pairwise := Value.pairwise_of_isChain (fun _ _ _ => Value.compare_lt_trans)
    (sortable_kindred numbers) strict
  refine ⟨⟨key, there, equal.1, by rw [equal.2]; nofun⟩, ?_⟩
  rintro j ⟨other, atJ, kind, fits⟩
  by_contra behind
  -- Otherwise the value would bring the later key back in front of the equal one.
  have step := related_of_lt pairwise (not_le.mp behind) there atJ equal.1 kind
  have back : (Value.compare value key).isLE = true := by
    rw [Value.compare_swap, equal.2]
    rfl
  have round := Value.isLE_compare_trans (sortable_of_getElem? numbers atJ kind)
    (sortable_of_comparable_right equal.1 isNumber) (sortable_of_getElem? numbers there equal.1)
    (Ordering.isLE_iff_ne_gt.mpr fits) back
  rw [Value.compare_swap, step] at round
  cases round

theorem findApproximate_of_equal : findApproximate keys value = some i := by
  have numbers (key : Value) (listed : key ∈ keys) := (entries key listed).isNaN
  have greatest := isGreatest_of_equal entries isNumber strict there equal
  rw [← beforeGreater_eq_notGreater isNumber numbers
    (strict.imp fun a b less => by rw [less]; rfl)] at greatest
  exact findApproximate_of_isGreatest greatest

theorem findExact_of_equal : findExact keys value = some i := by
  have answers (other : Value) (listed : other ∈ keys) :
      sameKey other value = true ↔ Equal other value := by
    have ofOther := entries other listed
    obtain ⟨n, rfl⟩ | ⟨t, rfl, plain⟩ := equal.cases (entries key (List.mem_of_getElem? there))
    · exact sameKey_number ofOther isNumber
    · exact sameKey_text ofOther plain
  obtain ⟨inside, rfl⟩ := List.getElem?_eq_some_iff.mp there
  refine List.findIdx?_eq_some_iff_getElem.mpr
    ⟨inside, (answers _ (List.getElem_mem inside)).mpr equal, fun j before => ?_⟩
  intro found
  have earlier := isGreatest_of_equal entries isNumber strict
    (List.getElem?_eq_getElem (before.trans inside)) ((answers _ (List.getElem_mem _)).mp found)
  have same := earlier.unique (isGreatest_of_equal entries isNumber strict there equal)
  omega

end Places

/-- In a table of cells, if the keys of the kind of a value increase and one is equal to it, it
makes no difference whether a look-up takes the last key that is not greater or one that answers to
it. -/
theorem approximate_eq_exact (grid : Grid) {range : Range} {meter : Meter}
    {rows : List (List Value)}
    (reads : ((grid.meteredRange range).run meter).1 = .ok (.array rows)) (direction : Direction)
    {value yes no : Value} (isNumber : value.isNaN = false)
    (strict : (kindred (keys direction rows) value).IsChain fun a b => Value.compare a b = .lt)
    (present : ∃ key ∈ kindred (keys direction rows) value, Value.compare key value = .eq)
    (chosen : yes.toBool = .ok true) (declined : no.toBool = .ok false) (index : Value) :
    let ends (flag : Option Value) :=
      direction.function.apply (value :: .array rows :: index :: flag.toList)
    ends (some yes) = ends (some no) ∧ ends (some yes) = ends none := by
  intro ends
  have entries : ∀ key ∈ keys direction rows, key.IsEntry := by
    obtain ⟨-, reads⟩ := grid.reads_iff.mp reads
    exact forall_mem_keys Value.IsEntry trivial (grid.isEntry_typedRange reads) direction
  obtain ⟨key, listed, same⟩ := present
  obtain ⟨member, kind⟩ := mem_kindred.mp listed
  obtain ⟨i, there⟩ := List.mem_iff_getElem?.mp member
  have equal : Equal key value := ⟨kind, same⟩
  have alike (line : Nat) : answer direction rows value true line =
      answer direction rows value false line := by
    unfold answer find
    rw [if_pos rfl, if_neg Bool.false_ne_true,
      findApproximate_of_equal entries isNumber strict there equal,
      findExact_of_equal entries isNumber strict there equal]
  have scalar := (sortable_of_comparable_right kind isNumber).scalar
  have approximate := apply_scalar direction rows scalar index (some yes) chosen
  have exact := apply_scalar direction rows scalar index (some no) declined
  have omitted := apply_scalar direction rows scalar index none rfl
  simp only [alike] at approximate
  exact ⟨approximate.trans exact.symm, approximate.trans omitted.symm⟩

/-- The key in lower case for a value in upper case, behind a number. -/
theorem approximate_eq_exact_cased :
    let grid : Grid := .ofValues [["b", "1"], ["7", "2"], ["d", "3"]]
    let range : Range := .spanning (.relative 0 0) (.relative 2 1)
    let rows : List (List Value) := [[.text "b", .number 1], [.number 7, .number 2],
      [.text "d", .number 3]]
    ((grid.meteredRange range).run (.fresh 6)).1 = .ok (.array rows) ∧
    (kindred (keys .down rows) (.text "D")).IsChain (fun a b => Value.compare a b = .lt) ∧
    (∃ key ∈ kindred (keys .down rows) (.text "D"), Value.compare key (.text "D") = .eq) ∧
    Strict.vlookup.apply [.text "D", .array rows, .number 2, .boolean true] =
      Strict.vlookup.apply [.text "D", .array rows, .number 2] := by
  intro grid range rows
  have one : grid.typedCell (.relative 0 1) = .number 1 := Value.ofCellText_of_reads (by decide)
  have seven : grid.typedCell (.relative 1 0) = .number 7 := Value.ofCellText_of_reads (by decide)
  have two : grid.typedCell (.relative 1 1) = .number 2 := Value.ofCellText_of_reads (by decide)
  have three : grid.typedCell (.relative 2 1) = .number 3 := Value.ofCellText_of_reads (by decide)
  have b : grid.typedCell (.relative 0 0) = .text "b" := by cbv
  have d : grid.typedCell (.relative 2 0) = .text "d" := by cbv
  have reads : ((grid.meteredRange range).run (.fresh 6)).1 = .ok (.array rows) := by
    have fits : range.Fits := .of_inSheet ⟨by decide, by decide⟩ ⟨by decide, by decide⟩
    refine grid.reads_iff.mpr ⟨by decide, ?_⟩
    rw [grid.typedRange_eq_table fits.evenRows]
    unfold Grid.table
    rw [show range.rows = [0, 1, 2] by decide, show range.columns = [0, 1] by decide]
    simp only [List.map_cons, List.map_nil, one, seven, two, three, b, d, rows]
  have strict : (kindred (keys .down rows) (.text "D")).IsChain
      (fun a b => Value.compare a b = .lt) := by decide
  have present : ∃ key ∈ kindred (keys .down rows) (.text "D"),
      Value.compare key (.text "D") = .eq := by decide
  have agree := approximate_eq_exact grid reads .down rfl strict present
    (show (Value.boolean true).toBool = .ok true from rfl)
    (show (Value.boolean false).toBool = .ok false from rfl) (.number 2)
  exact ⟨reads, strict, present, agree.2⟩

/-- What is no number equals every number, so the last of them is taken, but none answers to it. -/
theorem approximate_ne_exact_nan :
    let grid : Grid := .ofValues [["1", "x"]]
    let range : Range := .spanning (.relative 0 0) (.relative 0 1)
    let rows : List (List Value) := [[.number 1, .text "x"]]
    let value : Value := .number (0 / 0)
    ((grid.meteredRange range).run (.fresh 2)).1 = .ok (.array rows) ∧ value.isArray = false ∧
    (kindred (keys .down rows) value).IsChain (fun a b => Value.compare a b = .lt) ∧
    (∃ key ∈ kindred (keys .down rows) value, Value.compare key value = .eq) ∧
    Strict.vlookup.apply [value, .array rows, .number 2, .boolean true] = .ok (.text "x") ∧
    Strict.vlookup.apply [value, .array rows, .number 2, .boolean false] =
      .error (.notAvailable "VLOOKUP" value) := by
  intro grid range rows value
  have one : grid.typedCell (.relative 0 0) = .number 1 := Value.ofCellText_of_reads (by decide)
  have x : grid.typedCell (.relative 0 1) = .text "x" := by cbv
  have reads : ((grid.meteredRange range).run (.fresh 2)).1 = .ok (.array rows) := by
    have fits : range.Fits := .of_inSheet ⟨by decide, by decide⟩ ⟨by decide, by decide⟩
    refine grid.reads_iff.mpr ⟨by decide, ?_⟩
    rw [grid.typedRange_eq_table fits.evenRows]
    unfold Grid.table
    rw [show range.rows = [0] by decide, show range.columns = [0, 1] by decide]
    simp only [List.map_cons, List.map_nil, one, x, rows]
  exact ⟨reads, rfl, by decide, by decide, rfl, rfl⟩

end Lookup

end Spreadsheet
