import Spreadsheet.Proofs.Decimal.Display
import Spreadsheet.Proofs.Grid.References

namespace Spreadsheet

open Spreadsheet.Decimal
open Spreadsheet.Text

namespace Value

/-- Numbers lose the sign of a zero. -/
def unsignedZero : Value → Value
  | .number n => .number (Decimal.unsignedZero n)
  | value => value

theorem unsignedZero_unsignedZero (value : Value) :
    value.unsignedZero.unsignedZero = value.unsignedZero := by
  cases value with
  | number n =>
      exact congrArg Value.number (Decimal.unsignedZero_unsignedZero n)
  | text | boolean | array | empty => rfl

theorem ofCellText_of_reads {s : String} {n : Float} (reads : readNumber? s.toList = some n) :
    ofCellText s = .number n := by
  have filled : s.isEmpty = false := by
    rw [String.isEmpty_eq_false_iff]
    rintro rfl
    cases reads
  unfold ofCellText
  rw [filled, if_neg Bool.false_ne_true, reads]

/-- What a cell can hold is read back from its text. -/
theorem IsEntry.exists_text {value : Value} (entry : value.IsEntry) :
    ∃ text, value.toText = .ok text ∧ ofCellText text = value.unsignedZero := by
  cases value with
  | number n =>
      refine ⟨.ofList (display n), if_pos entry, ofCellText_of_reads ?_⟩
      rw [String.toList_ofList]
      exact readNumber?_display entry
  | text s =>
      obtain ⟨filled, none⟩ := entry
      refine ⟨s, rfl, ?_⟩
      unfold ofCellText
      rw [if_neg (by simpa using filled), none]
      rfl
  | empty => exact ⟨"", rfl, rfl⟩
  | boolean | array => exact entry.elim

end Value

namespace Grid

theorem typedCell_write (grid : Grid) (place address : Address) (cell : Cell) :
    (grid.write place.row place.column cell).typedCell address =
      if address.row = place.row ∧ address.column = place.column then .ofCellText cell.value
      else grid.typedCell address := by
  unfold typedCell
  rw [valueAt_write, apply_ite Value.ofCellText]

section Writing

variable {grid : Grid} {address formula : String} {place : Address} {value : Value}

/-- A formula whose value a cell can hold is stored with the text of that value. -/
theorem writeFormula_of_entry (names : Address.read address.toList = .ok place)
    (ends : grid.value .standard formula = .ok value) (entry : value.IsEntry) :
    ∃ text, value.toText = .ok text ∧ Value.ofCellText text = value.unsignedZero ∧
      grid.writeFormula address.toList formula =
        .ok (text, grid.write place.row place.column (.computed text formula)) := by
  obtain ⟨text, shown, reads⟩ := entry.exists_text
  have displayed : grid.display .standard formula = text := by
    have rendered : grid.text .standard formula = value.toText := by
      unfold Grid.text
      rw [ends]
      rfl
    unfold display outcome
    rw [rendered, shown]
    rfl
  refine ⟨text, shown, reads, ?_⟩
  unfold writeFormula writeAt
  rw [displayed, names]
  rfl

theorem isFinite_of_value {options : Options} {n : Float}
    (ends : grid.value options formula = .ok (.number n)) : n.isFinite = true := by
  unfold Grid.value at ends
  cases parses : options.parse formula with
  | error cause =>
      rw [parses] at ends
      cases ends
  | ok expr =>
      rw [parses] at ends
      exact Session.wellFormed_of_evaluate (Formula.wellFormed_of_parse parses) ends

end Writing

/-- What is stored is what was computed. The text that shows a finite number is read as that
number; a cell whose formula evaluates to a number holds that number; and a formula that names
another cell leaves the value of that cell, whatever text it holds. Zero alone loses its sign. -/
theorem stored_reads_back (grid : Grid) :
    (∀ n : Float, n.isFinite = true → readNumber? (Decimal.display n) = some (unsignedZero n)) ∧
    (∀ (address formula : String) (place : Address) (n : Float),
      Address.read address.toList = .ok place → grid.value .standard formula = .ok (.number n) →
        ∃ written, grid.writeFormula address.toList formula =
            .ok (.ofList (Decimal.display n), written) ∧
          written.typedCell place = .number (unsignedZero n)) ∧
    ∀ (address source : String) (place origin : Address),
      Address.read address.toList = .ok place → Address.read source.toList = .ok origin →
        ∃ shown written, grid.writeFormula address.toList ("=" ++ source) = .ok (shown, written) ∧
          written.typedCell place = (grid.typedCell origin).unsignedZero ∧
          (written.typedCell origin).unsignedZero = written.typedCell place := by
  refine ⟨fun n => readNumber?_display, ?_, ?_⟩
  · intro address formula place n names ends
    have finite := isFinite_of_value ends
    have entry : (Value.number n).IsEntry := finite
    obtain ⟨text, shown, reads, stored⟩ := writeFormula_of_entry names ends entry
    obtain rfl : String.ofList (Decimal.display n) = text :=
      Except.ok.inj ((if_pos finite).symm.trans shown)
    refine ⟨_, stored, ?_⟩
    rw [typedCell_write, if_pos ⟨rfl, rfl⟩]
    exact reads
  · intro address source place origin names aims
    have entry := Value.isEntry_ofCellText (grid.valueAt origin.row origin.column)
    obtain ⟨text, -, reads, stored⟩ :=
      writeFormula_of_entry names (value_reference (by decide) aims) entry
    refine ⟨text, _, stored, ?_⟩
    rw [typedCell_write, typedCell_write, if_pos ⟨rfl, rfl⟩]
    refine ⟨reads, ?_⟩
    split
    next => exact (congrArg _ reads).trans ((Value.unsignedZero_unsignedZero _).trans reads.symm)
    next => exact reads.symm

/-- At the least number that is shown with an exponent. -/
theorem stored_reads_back_exponent :
    let grid : Grid := .ofValues [["1000000000000000000000"]]
    let place : Address := .relative 2 27
    Address.read "AB3".toList = .ok place ∧ grid.value .standard "=a1" = .ok (.number 1e21) ∧
      ∃ written, grid.writeFormula "AB3".toList "=a1" =
          .ok (.ofList (Decimal.display 1e21), written) ∧
        written.typedCell place = .number (unsignedZero 1e21) := by
  intro grid place
  have names : Address.read "AB3".toList = .ok place := by decide
  have aims : Address.read "a1".toList = .ok (.relative 0 0) := by decide
  have typed : grid.typedCell (.relative 0 0) = .number 1e21 :=
    Value.ofCellText_of_reads (s := "1000000000000000000000") (by decide)
  have ends : grid.value .standard ("=" ++ "a1") = .ok (.number 1e21) :=
    (value_reference (by decide) aims).trans (congrArg Except.ok typed)
  exact ⟨names, ends, (stored_reads_back grid).2.1 _ _ place 1e21 names ends⟩

end Grid

end Spreadsheet
