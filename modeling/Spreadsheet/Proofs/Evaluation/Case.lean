import Spreadsheet.Outcome
import Spreadsheet.Proofs.Evaluation.Agreement
import Spreadsheet.Proofs.Formula.Limits
import Spreadsheet.Proofs.Formula.Respelling

/-! Values of formulas in either case. The case of a bare name reaches nothing but the message of
the error that it raises. -/

namespace Spreadsheet

open Spreadsheet.Formula

variable {σ : Type} {α β : Type}

/-- From every state two computations end with one value, or with errors of one tag, and in one
state. -/
def EndsAlike (a b : Metered σ α) : Prop :=
  ∀ s, (a.run s).1.mapError FormulaError.tag = (b.run s).1.mapError FormulaError.tag ∧
    (a.run s).2 = (b.run s).2

namespace EndsAlike

theorem refl (a : Metered σ α) : EndsAlike a a := fun _ => ⟨rfl, rfl⟩

theorem throw {error other : FormulaError} (same : error.tag = other.tag) :
    EndsAlike (MonadExcept.throw error : Metered σ α) (MonadExcept.throw other) :=
  fun _ => ⟨congrArg Except.error same, rfl⟩

theorem bind {a b : Metered σ α} {f g : α → Metered σ β} (first : EndsAlike a b)
    (next : ∀ value, EndsAlike (f value) (g value)) : EndsAlike (a >>= f) (b >>= g) := by
  intro s
  have ends := first s
  rw [Metered.run_bind, Metered.run_bind]
  revert ends
  rcases a.run s with ⟨left, s'⟩
  rcases b.run s with ⟨right, t'⟩
  rintro ⟨same, rfl⟩
  cases left with
  | ok value =>
      cases right with
      | ok other =>
          cases same
          exact next value s'
      | error => cases same
  | error error =>
      cases right with
      | ok => cases same
      | error other => exact ⟨congrArg Except.error (Except.error.inj same), rfl⟩

theorem tryCatch {a b c d : Metered σ α} (first : EndsAlike a b) (fallback : EndsAlike c d) :
    EndsAlike (MonadExcept.tryCatch a fun _ => c) (MonadExcept.tryCatch b fun _ => d) := by
  intro s
  have ends := first s
  rw [Metered.run_tryCatch, Metered.run_tryCatch]
  revert ends
  rcases a.run s with ⟨left, s'⟩
  rcases b.run s with ⟨right, t'⟩
  rintro ⟨same, rfl⟩
  cases left with
  | ok value =>
      cases right with
      | ok other => exact ⟨same, rfl⟩
      | error => cases same
  | error error =>
      cases right with
      | ok => cases same
      | error other => exact fallback s'

end EndsAlike

namespace Source

variable (source : Source σ)

theorem length_upperNamesAll (exprs : List Expr) :
    (Expr.upperNamesAll exprs).length = exprs.length := by
  induction exprs with
  | nil => rfl
  | cons first others ih => exact congrArg (· + 1) ih

mutual

theorem evaluate_upperNames : (expr : Expr) →
    EndsAlike (source.evaluate expr.upperNames) (source.evaluate expr)
  | .number _ | .text _ | .boolean _ | .cell _ | .range _ => .refl _
  | .name _ => .throw rfl
  | .binary op left right => by
      rw [Expr.upperNames, evaluate, evaluate]
      refine (evaluate_upperNames left).bind fun x => ?_
      refine (EndsAlike.refl _).bind fun x => ?_
      refine (evaluate_upperNames right).bind fun y => ?_
      exact .refl _
  | .unary op operand => by
      rw [Expr.upperNames, evaluate, evaluate]
      exact (evaluate_upperNames operand).bind fun x => .refl _
  | .call name arguments => by
      rw [Expr.upperNames, evaluate, evaluate, length_upperNamesAll]
      cases Builtin.ofName? name with
      | none => exact .refl _
      | some function =>
          refine (EndsAlike.refl _).bind fun _ => ?_
          cases function with
          | strict f => exact (evaluateAll_upperNames arguments).bind fun _ => .refl _
          | selective f => exact select_upperNames f arguments

theorem evaluateAll_upperNames : (exprs : List Expr) →
    EndsAlike (source.evaluateAll (Expr.upperNamesAll exprs)) (source.evaluateAll exprs)
  | [] => .refl _
  | first :: others => by
      rw [Expr.upperNamesAll, evaluateAll, evaluateAll]
      refine (evaluate_upperNames first).bind fun x => ?_
      exact (evaluateAll_upperNames others).bind fun _ => .refl _

theorem select_upperNames : (function : Selective) → (exprs : List Expr) →
    EndsAlike (source.select function (Expr.upperNamesAll exprs)) (source.select function exprs)
  | .cond, [] => .refl _
  | .cond, [condition] => by
      simp only [Expr.upperNamesAll, select]
      exact (evaluate_upperNames condition).bind fun x => .refl _
  | .cond, [condition, yes] => by
      simp only [Expr.upperNamesAll, select]
      refine (evaluate_upperNames condition).bind fun x => ?_
      refine (EndsAlike.refl _).bind fun chosen => ?_
      cases chosen with
      | true => exact evaluate_upperNames yes
      | false => exact .refl _
  | .cond, condition :: yes :: no :: _ => by
      simp only [Expr.upperNamesAll, select]
      refine (evaluate_upperNames condition).bind fun x => ?_
      refine (EndsAlike.refl _).bind fun chosen => ?_
      cases chosen with
      | true => exact evaluate_upperNames yes
      | false => exact evaluate_upperNames no
  | .ifError, [] => .refl _
  | .ifError, [_] => .refl _
  | .ifError, [value, fallback] => by
      simp only [Expr.upperNamesAll, select]
      exact (evaluate_upperNames value).tryCatch (evaluate_upperNames fallback)
  | .ifError, _ :: _ :: _ :: others => by
      simp only [Expr.upperNamesAll, select, List.length_cons, length_upperNamesAll]
      exact .refl _

end

end Source

theorem evaluate_congr {e e' : Expr} (same : e'.upperNames = e.upperNames) (grid : Grid)
    (options : Options) :
    ((Session.start grid options).evaluate e').1.mapError FormulaError.tag =
      ((Session.start grid options).evaluate e).1.mapError FormulaError.tag := by
  have left := (grid.source.evaluate_upperNames e' (.fresh options.maxRangeCells)).1
  rw [same] at left
  exact left.symm.trans (grid.source.evaluate_upperNames e (.fresh options.maxRangeCells)).1

namespace Grid

/-- What a formula shows depends on its value, or on the tag of its error. -/
theorem outcome_congr {grid : Grid} {options : Options} {formula other : String}
    (same : (grid.value options formula).mapError FormulaError.tag =
      (grid.value options other).mapError FormulaError.tag) :
    grid.outcome options formula = grid.outcome options other := by
  unfold outcome text
  revert same
  cases grid.value options formula with
  | ok value =>
      cases grid.value options other with
      | ok => rintro ⟨⟩; rfl
      | error => exact nofun
  | error error =>
      cases grid.value options other with
      | ok => exact nofun
      | error => exact fun same => congrArg Outcome.failure (Except.error.inj same)

theorem value_respelled {formula other : String}
    (respelled : Respelled (tokens (body other.toList)) (tokens (body formula.toList)))
    (grid : Grid) (options : Options) :
    (grid.value options formula).mapError FormulaError.tag =
      (grid.value options other).mapError FormulaError.tag := by
  unfold value
  cases parses : options.parse formula with
  | ok e =>
      obtain ⟨e', parses', same⟩ := parse_respelled respelled parses
      rw [parses']
      exact (evaluate_congr same grid options).symm
  | error error =>
      cases parses' : options.parse other with
      | ok e' =>
          obtain ⟨e, found, -⟩ := parse_respelled respelled.symm parses'
          rw [parses] at found
          cases found
      | error error' =>
          obtain ⟨cause, rfl⟩ := eq_parse_of_parse_error parses
          obtain ⟨cause', rfl⟩ := eq_parse_of_parse_error parses'
          rfl

/-- Letters outside quotes may be written in either case: a formula shows the same text or an error
of the same tag, and is read as the same tree but for the case of bare names. -/
theorem outcome_recased {formula other : String}
    (recased : Recased false formula.toList other.toList) (grid : Grid) (options : Options) :
    grid.outcome options formula = grid.outcome options other ∧
      ∀ e, options.parse formula = .ok e →
        ∃ e', options.parse other = .ok e' ∧ e'.upperNames = e.upperNames := by
  have respelled : Respelled (tokens (body other.toList)) (tokens (body formula.toList)) :=
    recased.tokens_body.symm
  exact ⟨outcome_congr (value_respelled respelled grid options),
    fun e parses => parse_respelled respelled parses⟩

/-- A function, a reference and a bare name in lower case, and a text in quotes left as it is. -/
theorem outcome_recased_call :
    Recased false "=if(b1,\"b\",b)".toList "=IF(B1,\"b\",B)".toList ∧
      empty.outcome .standard "=if(b1,\"b\",b)" = empty.outcome .standard "=IF(B1,\"b\",B)" := by
  have recased : Recased false "=if(b1,\"b\",b)".toList "=IF(B1,\"b\",B)".toList := by
    repeat first
      | exact .nil _
      | refine .outside rfl ?_
      | refine .inside ?_
  exact ⟨recased, (outcome_recased recased empty .standard).1⟩

end Grid

end Spreadsheet
