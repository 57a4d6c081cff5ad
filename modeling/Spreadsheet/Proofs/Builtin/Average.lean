import Spreadsheet.Evaluation
import Spreadsheet.Proofs.Binary.Sums
import Spreadsheet.Proofs.Value.Count
import Spreadsheet.Proofs.Value.WellFormed

namespace Spreadsheet.Aggregate

open Spreadsheet.Binary
open Spreadsheet.Decimal (unsignedZero)

/-- The sum of the arguments over their count, as the operator divides them. -/
def quotient (args : List Value) : Except FormulaError Value := do
  Formula.BinaryOp.divide.apply (← Strict.sum.apply args) (← Strict.count.apply args)

def total (args : List Value) : Float := (numericEntries args).foldl (· + ·) (-0.0)

theorem sum_eq (args : List Value) : Strict.sum.apply args = Value.finite (total args) := rfl

theorem divide_numbers (x : Float) {divisor : Float} (nonzero : (divisor == 0) = false) :
    Formula.BinaryOp.divide.apply (.number x) (.number divisor) = Value.finite (x / divisor) := by
  change (if (divisor == 0) = true then _ else _) = _
  rw [nonzero, if_neg Bool.false_ne_true]

variable {args : List Value}

section None

variable (none : numericEntries args = [])

include none

theorem average_of_none : Strict.average.apply args = .error .divisionByZero := by
  change (if (numericEntries args).isEmpty = true then _ else _) = _
  rw [none]
  rfl

theorem quotient_of_none : quotient args = .error .divisionByZero := by
  have sums : Strict.sum.apply args = .ok (.number (-0.0)) := by
    rw [sum_eq, total, none]
    exact Value.finite_of_isFinite (by decide)
  have counts : Strict.count.apply args = .ok (.number (Value.ofCount 0)) := by
    change Except.ok (Value.number (Value.ofCount (numericEntries args).length)) = _
    rw [none]
    rfl
  unfold quotient
  rw [sums, counts]
  rfl

end None

section Some

variable (some : numericEntries args ≠ [])

include some

theorem one_le_count : 1 ≤ value (Value.ofCount (numericEntries args).length) :=
  Value.one_le_value_ofCount (List.length_pos_iff.mpr some)

theorem count_ne_zero : (Value.ofCount (numericEntries args).length == 0) = false := by
  have large := one_le_count some
  refine Bool.eq_false_iff.mpr fun zero => ?_
  rw [(value_of_beq_zero zero).2] at large
  norm_num at large

/-- The sum that is averaged starts from another zero. -/
theorem average_of_some : ∃ started, unsignedZero started = unsignedZero (total args) ∧
    Strict.average.apply args =
      Value.finite (started / Value.ofCount (numericEntries args).length) := by
  have start : unsignedZero 0 = unsignedZero (-0.0) := rfl
  refine ⟨_, unsignedZero_foldl_congr start (numericEntries args), ?_⟩
  change (if (numericEntries args).isEmpty = true then _ else _) = _
  rw [if_neg (by simpa using some)]

/-- What is not finite is no zero, so that both start the same sum, and no division changes it. -/
theorem average_of_infinite (infinite : (total args).isFinite = false) :
    Strict.average.apply args = .error (.numeric (.notFinite (total args))) := by
  obtain ⟨started, same, averages⟩ := average_of_some some
  obtain rfl : started = total args := by
    rcases unsignedZero_eq_iff.mp same with same | ⟨-, zero⟩
    · exact same
    · rw [(value_of_beq_zero zero).1] at infinite
      cases infinite
  have large := one_le_count some
  rw [averages, div_of_not_finite infinite (Value.isFinite_ofCount _) (by linarith),
    Value.finite_of_not_isFinite infinite]

theorem exists_average (finite : (total args).isFinite = true) :
    ∃ x z, Strict.average.apply args = .ok (.number x) ∧ quotient args = .ok (.number z) ∧
      unsignedZero x = unsignedZero z := by
  obtain ⟨started, same, averages⟩ := average_of_some some
  have large := one_le_count some
  have finiteCount := Value.isFinite_ofCount (numericEntries args).length
  have quotientFinite (n : Float) (isFinite : n.isFinite = true) :
      Value.finite (n / Value.ofCount (numericEntries args).length) =
        .ok (.number (n / Value.ofCount (numericEntries args).length)) :=
    Value.finite_of_isFinite (isFinite_div isFinite finiteCount (large.trans (le_abs_self _)))
  rw [quotientFinite started ((isFinite_congr same).trans finite)] at averages
  refine ⟨_, _, averages, ?_, unsignedZero_div_congr same finiteCount (by linarith)⟩
  unfold quotient
  rw [sum_eq, Value.finite_of_isFinite finite]
  exact (divide_numbers _ (count_ne_zero some)).trans (quotientFinite _ finite)

end Some

/-- Without a number neither has a value. Otherwise both have the error of the sum, if that is not
finite, and else they are one number up to the sign of a zero. -/
theorem average_eq_quotient (args : List Value) :
    (numericEntries args = [] ∧ Strict.average.apply args = .error .divisionByZero ∧
      quotient args = .error .divisionByZero) ∨
    (numericEntries args ≠ [] ∧ ∃ total, total.isFinite = false ∧
      Strict.sum.apply args = .error (.numeric (.notFinite total)) ∧
      Strict.average.apply args = .error (.numeric (.notFinite total)) ∧
      quotient args = .error (.numeric (.notFinite total))) ∨
    (numericEntries args ≠ [] ∧ ∃ total x z, Strict.sum.apply args = .ok (.number total) ∧
      Strict.average.apply args = .ok (.number x) ∧ quotient args = .ok (.number z) ∧
      unsignedZero x = unsignedZero z) := by
  by_cases some : numericEntries args = []
  · exact .inl ⟨some, average_of_none some, quotient_of_none some⟩
  right
  cases finite : (total args).isFinite with
  | false =>
      have sums := Value.finite_of_not_isFinite finite
      rw [← sum_eq] at sums
      refine .inl ⟨some, total args, finite, sums, average_of_infinite some finite, ?_⟩
      unfold quotient
      rw [sums]
      rfl
  | true =>
      have sums := Value.finite_of_isFinite finite
      rw [← sum_eq] at sums
      obtain ⟨x, z, averages, quotients, same⟩ := exists_average some finite
      exact .inr ⟨some, total args, x, z, sums, averages, quotients, same⟩

end Spreadsheet.Aggregate
