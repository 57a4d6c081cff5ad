import Spreadsheet.Proofs.Evaluation.Selection
import Spreadsheet.Proofs.Value.Order

namespace Spreadsheet

open Spreadsheet.Formula

namespace Session

variable {session after done : Session} {left right : Expr} {a b : Value}

/-- Between an evaluation's start and its end only the meter differs. -/
theorem evaluate_eq_iff {result : Except FormulaError Value} :
    session.evaluate left = (result, after) ↔
      (session.grid.source.evaluate left).run session.meter = (result, after.meter) ∧
        after.grid = session.grid := by
  change session.run (session.grid.source.evaluate left) = _ ↔ _
  unfold run
  rcases (session.grid.source.evaluate left).run session.meter with ⟨_, _⟩
  obtain ⟨grid, meter⟩ := after
  constructor
  · rintro ⟨⟩
    exact ⟨rfl, rfl⟩
  · rintro ⟨⟨⟩, same⟩
    obtain rfl : grid = session.grid := same
    rfl

theorem run_operand (evaluates : session.evaluate left = (.ok a, after))
    (scalar : a.isArray = false) :
    (session.grid.source.operand left).run session.meter = (.ok a, after.meter) := by
  unfold Source.operand
  rw [Metered.run_bind, (evaluate_eq_iff.mp evaluates).1]
  dsimp only
  rw [Value.scalar_eq scalar]
  rfl

/-- An operator gets the values of its operands, the second read from what the first one left. -/
theorem evaluate_binary (first : session.evaluate left = (.ok a, after))
    (second : after.evaluate right = (.ok b, done)) (scalarA : a.isArray = false)
    (scalarB : b.isArray = false) (op : BinaryOp) :
    session.evaluate (.binary op left right) = (op.apply a b, done) := by
  have sameGrid := (evaluate_eq_iff.mp first).2
  have sameGrid' := (evaluate_eq_iff.mp second).2
  have leftRun := run_operand first scalarA
  have rightRun := run_operand second scalarB
  rw [sameGrid] at rightRun
  refine evaluate_eq_iff.mpr ⟨?_, sameGrid'.trans sameGrid⟩
  rw [Source.evaluate_binary, Metered.run_bind, leftRun]
  dsimp only
  rw [Metered.run_bind, rightRun]
  rfl

theorem evaluate_binary_left {error : FormulaError}
    (fails : session.evaluate left = (.error error, after)) (op : BinaryOp) (right : Expr) :
    session.evaluate (.binary op left right) = (.error error, after) := by
  obtain ⟨run, sameGrid⟩ := evaluate_eq_iff.mp fails
  refine evaluate_eq_iff.mpr ⟨?_, sameGrid⟩
  rw [Source.evaluate_binary, Metered.run_bind]
  unfold Source.operand
  rw [Metered.run_bind, run]

theorem evaluate_binary_right {error : FormulaError}
    (first : session.evaluate left = (.ok a, after)) (scalar : a.isArray = false)
    (fails : after.evaluate right = (.error error, done)) (op : BinaryOp) :
    session.evaluate (.binary op left right) = (.error error, done) := by
  obtain ⟨run, sameGrid'⟩ := evaluate_eq_iff.mp fails
  have sameGrid := (evaluate_eq_iff.mp first).2
  rw [sameGrid] at run
  refine evaluate_eq_iff.mpr ⟨?_, sameGrid'.trans sameGrid⟩
  rw [Source.evaluate_binary, Metered.run_bind, run_operand first scalar]
  dsimp only
  rw [Metered.run_bind]
  unfold Source.operand
  rw [Metered.run_bind, run]

/-- What the comparisons of two formulas answer: one of three holds, and the others deny these. -/
structure Compares (session done : Session) (left right : Expr) (less equal greater : Bool) :
    Prop where
  one : [less, equal, greater].count true = 1
  lessThan : session.evaluate (.binary .lessThan left right) = (.ok (.boolean less), done)
  equals : session.evaluate (.binary .equal left right) = (.ok (.boolean equal), done)
  greaterThan : session.evaluate (.binary .greaterThan left right) = (.ok (.boolean greater), done)
  lessEqual : session.evaluate (.binary .lessEqual left right) = (.ok (.boolean !greater), done)
  notEqual : session.evaluate (.binary .notEqual left right) = (.ok (.boolean !equal), done)
  greaterEqual : session.evaluate (.binary .greaterEqual left right) = (.ok (.boolean !less), done)

/-- Turned round a comparison is reversed. Without empty values and what is no number it is an
order in which numbers stand before text and text before truth values. Of any two formulas with a
value each, one is less than, equal to or greater than the other, and only one of these. -/
theorem comparison_ordered :
    (∀ a b : Value, Value.compare b a = (Value.compare a b).swap) ∧
    (∀ a : Value, Value.compare a a = .eq) ∧
    (∀ a b : Value, (Value.compare a b).isLE = true ∨ (Value.compare b a).isLE = true) ∧
    (∀ a b c : Value, a.Sortable → b.Sortable → c.Sortable → (Value.compare a b).isLE = true →
      (Value.compare b c).isLE = true → (Value.compare a c).isLE = true) ∧
    (∀ (n : Float) (s : String) (p : Bool), Value.compare (.number n) (.text s) = .lt ∧
      Value.compare (.text s) (.boolean p) = .lt ∧ Value.compare (.number n) (.boolean p) = .lt) ∧
    ∀ (session after done : Session) (left right : Expr) (a b : Value),
      session.evaluate left = (.ok a, after) → after.evaluate right = (.ok b, done) →
      a.isArray = false → b.isArray = false →
        ∃ less equal greater, Compares session done left right less equal greater := by
  refine ⟨Value.compare_swap, Value.compare_self, Value.isLE_compare_total,
    fun _ _ _ => Value.isLE_compare_trans, fun _ _ _ => ⟨rfl, rfl, rfl⟩, ?_⟩
  intro session after done left right a b first second scalarA scalarB
  have answers := evaluate_binary first second scalarA scalarB
  have split (order : Ordering) : [order == .lt, order == .eq, order == .gt].count true = 1 := by
    cases order <;> rfl
  exact ⟨_, _, _, split (Value.compare a b), answers .lessThan, answers .equal,
    answers .greaterThan, answers .lessEqual, answers .notEqual, answers .greaterEqual⟩

/-- Between a blank cell and a text. -/
theorem comparison_ordered_blank :
    let session := start .empty .standard
    let blank : Expr := .cell (.relative 0 0)
    session.evaluate blank = (.ok .empty, session) ∧
      session.evaluate (.text "x") = (.ok (.text "x"), session) ∧
      ∃ less equal greater, Compares session session blank (.text "x") less equal greater := by
  intro session blank
  have first : session.evaluate blank = (.ok .empty, session) := rfl
  have second : session.evaluate (.text "x") = (.ok (.text "x"), session) := rfl
  exact ⟨first, second, comparison_ordered.2.2.2.2.2 session session session blank (.text "x")
    .empty (.text "x") first second rfl rfl⟩

end Session

end Spreadsheet
