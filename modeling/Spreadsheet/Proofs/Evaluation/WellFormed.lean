import Spreadsheet.Proofs.Builtin.WellFormed
import Spreadsheet.Proofs.Evaluation.Agreement
import Spreadsheet.Proofs.Formula.WellFormed

namespace Spreadsheet

open Spreadsheet.Formula
open Value (WellFormed)

variable {σ : Type} {α β : Type}

/-- From any state a computation ends, if with a value, with one that `accepts` allows. -/
def Yields (accepts : α → Prop) (computation : Metered σ α) : Prop :=
  ∀ state, Gives accepts (computation.run state).1

namespace Yields

variable {accepts : α → Prop} {expects : β → Prop}

theorem pure {value : α} (holds : accepts value) :
    Yields accepts (Pure.pure value : Metered σ α) := fun _ => .ok holds

theorem throw (error : FormulaError) :
    Yields accepts (MonadExcept.throw error : Metered σ α) := fun _ => .error error

theorem lift {result : Except FormulaError α} (gives : Gives accepts result) :
    Yields accepts (liftM result : Metered σ α) := fun _ => gives

theorem and {also : α → Prop} {computation : Metered σ α} (yields : Yields accepts computation)
    (yieldsAlso : Yields also computation) :
    Yields (fun value => accepts value ∧ also value) computation :=
  fun state value ends => ⟨yields state value ends, yieldsAlso state value ends⟩

theorem bind {first : Metered σ α} {next : α → Metered σ β} (yields : Yields accepts first)
    (continues : ∀ value, accepts value → Yields expects (next value)) :
    Yields expects (first >>= next) := by
  intro state
  have ends := yields state
  rw [Metered.run_bind]
  revert ends
  rcases first.run state with ⟨result, after⟩
  intro ends
  cases result with
  | ok value => exact continues value (ends value rfl) after
  | error error => exact .error error

theorem tryCatch {first : Metered σ α} {fallback : FormulaError → Metered σ α}
    (yields : Yields accepts first) (recovers : ∀ error, Yields accepts (fallback error)) :
    Yields accepts (MonadExcept.tryCatch first fallback) := by
  intro state
  have ends := yields state
  rw [Metered.run_tryCatch]
  revert ends
  rcases first.run state with ⟨result, after⟩
  intro ends
  cases result with
  | ok value => exact .ok (ends value rfl)
  | error error => exact recovers error after

end Yields

structure Source.Sound (source : Source σ) : Prop where
  cell : ∀ address, (source.cell address).WellFormed
  range : ∀ range : Range, range.Fits → Yields WellFormed (source.range range)

theorem Grid.sound_source (grid : Grid) : grid.source.Sound := by
  constructor
  · exact fun address => (Value.isEntry_ofCellText _).wellFormed
  · intro range fits meter
    rw [source_range_run]
    split
    next => exact .error _
    next => exact .ok (grid.wellFormed_typedRange fits)

namespace Source

variable {source : Source σ}

mutual

theorem evaluate_yields (sound : source.Sound) : (expr : Expr) → expr.WellFormed →
    Yields WellFormed (source.evaluate expr)
  | .number _, formed => .pure (formed _ List.mem_cons_self)
  | .text _, _ => .pure trivial
  | .boolean _, _ => .pure trivial
  | .name _, _ => .throw _
  | .cell address, _ => .pure (sound.cell address)
  | .range rectangle, formed => by
      obtain ⟨ordered, -, inside⟩ := formed _ List.mem_cons_self
      exact sound.range rectangle (.of_inSheet ordered inside)
  | .binary op left right, formed => by
      obtain ⟨leftFormed, rightFormed⟩ := Expr.wellFormed_binary.mp formed
      rw [evaluate]
      refine (evaluate_yields sound left leftFormed).bind fun x xFormed => ?_
      refine (Yields.lift xFormed.scalar).bind fun x _ => ?_
      refine (evaluate_yields sound right rightFormed).bind fun y yFormed => ?_
      refine (Yields.lift yFormed.scalar).bind fun y _ => ?_
      exact .lift (wellFormed_binary op x y)
  | .unary op operand, formed => by
      rw [evaluate]
      exact (evaluate_yields sound operand (Expr.wellFormed_unary.mp formed)).bind
        fun x xFormed => .lift (wellFormed_unary op xFormed)
  | .call name arguments, formed => by
      have argumentsFormed := Expr.wellFormed_call.mp formed
      rw [evaluate]
      cases Builtin.ofName? name with
      | none => exact .throw _
      | some function =>
          refine (Yields.lift (.any _)).bind fun _ _ => ?_
          cases function with
          | strict f =>
              exact (evaluateAll_yields sound arguments argumentsFormed).bind
                fun _ valuesFormed => .lift (wellFormed_apply f valuesFormed)
          | selective f => exact select_yields sound f arguments argumentsFormed

theorem evaluateAll_yields (sound : source.Sound) : (exprs : List Expr) →
    (∀ expr ∈ exprs, expr.WellFormed) →
    Yields (fun values => ∀ value ∈ values, value.WellFormed) (source.evaluateAll exprs)
  | [], _ => .pure fun _ member => nomatch member
  | first :: others, formed => by
      obtain ⟨firstFormed, othersFormed⟩ := List.forall_mem_cons.mp formed
      rw [evaluateAll]
      refine (evaluate_yields sound first firstFormed).bind fun value valueFormed => ?_
      exact (evaluateAll_yields sound others othersFormed).bind
        fun values valuesFormed => .pure (List.forall_mem_cons.mpr ⟨valueFormed, valuesFormed⟩)

theorem select_yields (sound : source.Sound) : (function : Selective) → (exprs : List Expr) →
    (∀ expr ∈ exprs, expr.WellFormed) → Yields WellFormed (source.select function exprs)
  | .cond, [], _ => .throw _
  | .cond, [condition], formed => by
      rw [select]
      refine (evaluate_yields sound condition (formed _ (by simp))).bind fun x _ => ?_
      refine (Yields.lift (.any x.toBool)).bind fun chosen _ => ?_
      cases chosen with
      | true => exact .throw _
      | false => exact .pure trivial
  | .cond, [condition, yes], formed => by
      rw [select]
      refine (evaluate_yields sound condition (formed _ (by simp))).bind fun x _ => ?_
      refine (Yields.lift (.any x.toBool)).bind fun chosen _ => ?_
      cases chosen with
      | true => exact evaluate_yields sound yes (formed _ (by simp))
      | false => exact .pure trivial
  | .cond, condition :: yes :: no :: _, formed => by
      rw [select]
      refine (evaluate_yields sound condition (formed _ (by simp))).bind fun x _ => ?_
      refine (Yields.lift (.any x.toBool)).bind fun chosen _ => ?_
      cases chosen with
      | true => exact evaluate_yields sound yes (formed _ (by simp))
      | false => exact evaluate_yields sound no (formed _ (by simp))
  | .ifError, [], _ => .throw _
  | .ifError, [_], _ => .throw _
  | .ifError, [value, fallback], formed => by
      rw [select]
      exact (evaluate_yields sound value (formed _ (by simp))).tryCatch
        fun _ => evaluate_yields sound fallback (formed _ (by simp))
  | .ifError, _ :: _ :: _ :: _, _ => .throw _

end

end Source

theorem Session.wellFormed_of_evaluate {session : Session} {expr : Expr} {value : Value}
    (formed : expr.WellFormed) (ends : (session.evaluate expr).1 = .ok value) :
    value.WellFormed :=
  Source.evaluate_yields session.grid.sound_source expr formed session.meter value ends

/-- What can be read evaluates to well-formed values only, and these all have a text but arrays. -/
theorem Grid.value_wellFormed (grid : Grid) (options : Options) :
    (∀ (reading : Options) (formula : String) (expr : Expr),
      reading.parse formula = .ok expr → expr.WellFormed) ∧
    (∀ (expr : Expr) (value : Value), expr.WellFormed →
      ((Session.start grid options).evaluate expr).1 = .ok value → value.WellFormed) ∧
    ∀ (formula : String) (error : FormulaError), grid.text options formula = .error error →
      grid.value options formula = .error error ∨
        (∃ rows, grid.value options formula = .ok (.array rows)) ∧
          error = .type .arrayAsScalar := by
  refine ⟨fun _ _ _ => wellFormed_of_parse, fun _ _ => Session.wellFormed_of_evaluate, ?_⟩
  intro formula error fails
  have formed : Gives WellFormed (grid.value options formula) := by
    unfold Grid.value
    intro value ends
    cases parses : options.parse formula with
    | error cause =>
        rw [parses] at ends
        cases ends
    | ok expr =>
        rw [parses] at ends
        exact Session.wellFormed_of_evaluate (wellFormed_of_parse parses) ends
  unfold Grid.text at fails
  cases ends : grid.value options formula with
  | error cause =>
      rw [ends] at fails
      cases fails
      exact .inl rfl
  | ok value =>
      rw [ends] at fails
      have array := (formed value ends).toText_error fails
      cases value with
      | array rows => exact .inr ⟨⟨rows, rfl⟩, array.2⟩
      | number | text | boolean | empty => cases array.1

end Spreadsheet
