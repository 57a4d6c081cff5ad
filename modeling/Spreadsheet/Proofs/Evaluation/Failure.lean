import Spreadsheet.Outcome
import Spreadsheet.Proofs.Builtin.Failure
import Spreadsheet.Proofs.Evaluation.WellFormed
import Spreadsheet.Proofs.Formula.Limits

namespace Spreadsheet

open Spreadsheet.Formula
open Value (WellFormed)

variable {σ : Type} {α β : Type}

namespace Formula

def Uses (trees : List Expr) (op : BinaryOp) : Prop :=
  ∃ left right, .binary op left right ∈ trees

def Calls (trees : List Expr) (f : Builtin) : Prop :=
  ∃ name arguments, .call name arguments ∈ trees ∧ Builtin.ofName? name = some f

end Formula

/-- Among the trees is what the error complains about, or something that can end with it. -/
def FormulaError.ExplainedBy (trees : List Expr) : FormulaError → Prop
  | .parse _ => False
  | .argumentCount function expected actual =>
    ∃ f name arguments, .call name arguments ∈ trees ∧ Builtin.ofName? name = some f ∧
      ¬ f.arity.Admits arguments.length ∧ function = f.name ∧ actual = arguments.length ∧
      f.arity.broken? actual = some expected
  | .unknownFunction name =>
    ∃ arguments, .call name arguments ∈ trees ∧ Builtin.ofName? name = none
  | .unknownName spelling => .name spelling ∈ trees
  | .notAvailable function _ =>
    ∃ f ∈ [Strict.vlookup, .hlookup], function = f.name ∧ Calls trees (.strict f)
  | .divisionByZero =>
    (∃ op ∈ [BinaryOp.divide, .power], Uses trees op) ∨
      ∃ f ∈ [Strict.mod, .average], Calls trees (.strict f)
  | .invalidReference (.rangeTooLarge range _ _) => .range range ∈ trees
  | .invalidReference (.indexOutside function _ _) =>
    ∃ f ∈ [Strict.vlookup, .hlookup], function = f.name ∧ Calls trees (.strict f)
  | .invalidReference (.startBelowOne _) => Calls trees (.strict .mid)
  | .numeric _ =>
    (∃ op ∈ [BinaryOp.add, .subtract, .multiply, .divide, .power], Uses trees op) ∨
      ∃ f ∈ [Strict.sum, .average, .round, .mod], Calls trees (.strict f)
  | .type _ => True

namespace FormulaError

variable {trees : List Expr} {error : FormulaError}

theorem explainedBy_type (trees : List Expr) (cause : TypeFault) :
    (FormulaError.type cause).ExplainedBy trees := trivial

theorem ExplainedBy.of_operator {op : BinaryOp} (used : Uses trees op) (raised : op.Raises error) :
    error.ExplainedBy trees := by
  cases error with
  | type => trivial
  | divisionByZero | numeric => exact .inl ⟨op, raised, used⟩
  | parse | argumentCount | invalidReference | notAvailable | unknownFunction | unknownName =>
      exact raised.elim

theorem ExplainedBy.of_function {f : Strict} (called : Calls trees (.strict f))
    (raised : f.Raises error) : error.ExplainedBy trees := by
  cases error with
  | type => trivial
  | divisionByZero => exact .inr ⟨f, List.mem_pair.mpr (List.mem_pair.mp raised).symm, called⟩
  | numeric => exact .inr ⟨f, raised, called⟩
  | notAvailable => exact ⟨f, raised.2, raised.1, called⟩
  | invalidReference cause =>
      cases cause with
      | rangeTooLarge => exact raised.elim
      | indexOutside => exact ⟨f, raised.2, raised.1, called⟩
      | startBelowOne =>
          obtain rfl : f = .mid := raised
          exact called
  | parse | argumentCount | unknownFunction | unknownName => exact raised.elim

end FormulaError

theorem fails_check {trees : List Expr} {name : String} {arguments : List Expr} {f : Builtin}
    (listed : .call name arguments ∈ trees) (found : Builtin.ofName? name = some f) :
    Fails (FormulaError.ExplainedBy trees) (f.arity.check f.name arguments.length) := by
  unfold Arity.check
  split
  next expected broken =>
    have outside : ¬ f.arity.Admits arguments.length := by
      rw [← Arity.broken?_eq_none_iff, broken]
      exact nofun
    exact .error ⟨f, name, arguments, listed, found, outside, rfl, rfl, broken⟩
  next => exact .ok _

theorem admits_of_check {f : Builtin} {count : Nat} :
    Gives (fun _ => f.arity.Admits count) (f.arity.check f.name count) := by
  unfold Arity.check
  split
  next => exact .error _
  next admitted => exact .ok (Arity.broken?_eq_none_iff.mp admitted)

/-- From any state a computation ends, if with an error, with one that `allows` allows. -/
def FailsAs (allows : FormulaError → Prop) (computation : Metered σ α) : Prop :=
  ∀ state, Fails allows (computation.run state).1

namespace FailsAs

variable {allows : FormulaError → Prop} {accepts : α → Prop}

theorem pure (value : α) : FailsAs allows (Pure.pure value : Metered σ α) := fun _ => .ok value

theorem throw {error : FormulaError} (holds : allows error) :
    FailsAs allows (MonadExcept.throw error : Metered σ α) := fun _ => .error holds

theorem lift {result : Except FormulaError α} (fails : Fails allows result) :
    FailsAs allows (liftM result : Metered σ α) := fun _ => fails

theorem bind {first : Metered σ α} {next : α → Metered σ β} (fails : FailsAs allows first)
    (yields : Yields accepts first)
    (continues : ∀ value, accepts value → FailsAs allows (next value)) :
    FailsAs allows (first >>= next) := by
  intro state
  have ends := fails state
  have gives := yields state
  rw [Metered.run_bind]
  revert ends gives
  rcases first.run state with ⟨result, after⟩
  intro ends gives
  cases result with
  | ok value => exact continues value (gives value rfl) after
  | error error => exact .error (ends error rfl)

theorem before {first : Metered σ α} {next : α → Metered σ β} (fails : FailsAs allows first)
    (continues : ∀ value, FailsAs allows (next value)) : FailsAs allows (first >>= next) :=
  fails.bind (fun _ => .any _) fun value _ => continues value

theorem tryCatch {first : Metered σ α} {fallback : FormulaError → Metered σ α}
    (recovers : ∀ error, FailsAs allows (fallback error)) :
    FailsAs allows (MonadExcept.tryCatch first fallback) := by
  intro state
  rw [Metered.run_tryCatch]
  rcases first.run state with ⟨result, after⟩
  cases result with
  | ok value => exact .ok value
  | error error => exact recovers error after

end FailsAs

/-- A source refuses nothing but ranges, and says so. -/
def Source.Refuses (source : Source σ) : Prop :=
  ∀ range, FailsAs (fun error => ∃ cells allowed,
    error = .invalidReference (.rangeTooLarge range cells allowed)) (source.range range)

theorem Grid.refuses_source (grid : Grid) : grid.source.Refuses := by
  intro range meter
  rw [source_range_run]
  split
  next => exact .error ⟨_, _, rfl⟩
  next => exact .ok _

namespace Source

variable {source : Source σ} {trees : List Expr}

/-- As many values as there are arguments. -/
theorem length_evaluateAll (exprs : List Expr) :
    Yields (fun values => values.length = exprs.length) (source.evaluateAll exprs) := by
  induction exprs with
  | nil => exact .pure rfl
  | cons first others ih =>
      rw [evaluateAll]
      have anything : Yields (fun _ => True) (source.evaluate first) := fun _ => .any _
      refine anything.bind fun value _ => ?_
      refine ih.bind fun values same => .pure ?_
      exact congrArg Nat.succ same

mutual

theorem evaluate_fails (sound : source.Sound) (refuses : source.Refuses) : (expr : Expr) →
    expr.WellFormed → expr.subtrees ⊆ trees →
    FailsAs (FormulaError.ExplainedBy trees) (source.evaluate expr)
  | .number _, _, _ => .pure _
  | .text _, _, _ => .pure _
  | .boolean _, _, _ => .pure _
  | .cell _, _, _ => .pure _
  | .name _, _, within => .throw (within List.mem_cons_self)
  | .range rectangle, _, within => by
      intro state error fails
      obtain ⟨cells, allowed, rfl⟩ := refuses rectangle state error fails
      exact within List.mem_cons_self
  | .binary op left right, formed, within => by
      obtain ⟨leftFormed, rightFormed⟩ := Expr.wellFormed_binary.mp formed
      obtain ⟨here, below⟩ := List.cons_subset.mp within
      obtain ⟨inLeft, inRight⟩ := List.append_subset.mp below
      rw [evaluate]
      refine (evaluate_fails sound refuses left leftFormed inLeft).bind
        (evaluate_yields sound left leftFormed) fun x xFormed => ?_
      refine (FailsAs.lift (x.fails_scalar (FormulaError.explainedBy_type trees))).bind
        (Yields.lift xFormed.scalar) fun x xFormed => ?_
      refine (evaluate_fails sound refuses right rightFormed inRight).bind
        (evaluate_yields sound right rightFormed) fun y yFormed => ?_
      refine (FailsAs.lift (y.fails_scalar (FormulaError.explainedBy_type trees))).bind
        (Yields.lift yFormed.scalar) fun y yFormed => ?_
      refine .lift fun error fails => ?_
      exact .of_operator ⟨left, right, here⟩ (fails_binary op xFormed yFormed error fails)
  | .unary op operand, formed, within => by
      rw [evaluate]
      exact (evaluate_fails sound refuses operand (Expr.wellFormed_unary.mp formed)
        (List.cons_subset.mp within).2).before
          fun x => .lift (fails_unary (FormulaError.explainedBy_type trees) op x)
  | .call name arguments, formed, within => by
      have argumentsFormed := Expr.wellFormed_call.mp formed
      obtain ⟨here, below⟩ := List.cons_subset.mp within
      rw [evaluate]
      cases found : Builtin.ofName? name with
      | none => exact .throw ⟨arguments, here, found⟩
      | some function =>
          refine (FailsAs.lift (fails_check here found)).bind (Yields.lift admits_of_check)
            fun _ admitted => ?_
          cases function with
          | strict f =>
              refine (evaluateAll_fails sound refuses arguments argumentsFormed below).bind
                ((evaluateAll_yields sound arguments argumentsFormed).and
                  (length_evaluateAll arguments)) fun values formedAll => ?_
              refine .lift fun error fails => ?_
              have admits : f.arity.Admits values.length := formedAll.2 ▸ admitted
              exact .of_function ⟨name, arguments, here, found⟩
                (fails_apply formedAll.1 admits error fails)
          | selective f =>
              exact select_fails sound refuses f arguments argumentsFormed below admitted

theorem evaluateAll_fails (sound : source.Sound) (refuses : source.Refuses) :
    (exprs : List Expr) → (∀ expr ∈ exprs, expr.WellFormed) → Expr.subtreesAll exprs ⊆ trees →
    FailsAs (FormulaError.ExplainedBy trees) (source.evaluateAll exprs)
  | [], _, _ => .pure _
  | first :: others, formed, within => by
      obtain ⟨firstFormed, othersFormed⟩ := List.forall_mem_cons.mp formed
      obtain ⟨inFirst, inOthers⟩ := List.append_subset.mp within
      rw [evaluateAll]
      refine (evaluate_fails sound refuses first firstFormed inFirst).before fun value => ?_
      exact (evaluateAll_fails sound refuses others othersFormed inOthers).before fun _ => .pure _

theorem select_fails (sound : source.Sound) (refuses : source.Refuses) :
    (function : Selective) → (exprs : List Expr) → (∀ expr ∈ exprs, expr.WellFormed) →
    Expr.subtreesAll exprs ⊆ trees → function.arity.Admits exprs.length →
    FailsAs (FormulaError.ExplainedBy trees) (source.select function exprs)
  | .cond, [], _, _, admitted => absurd admitted.1 (by decide)
  | .cond, [_], _, _, admitted => absurd (show 2 ≤ 1 from admitted.1) (by decide)
  | .cond, [condition, yes], formed, within, _ => by
      obtain ⟨inCondition, inYes⟩ := List.append_subset.mp within
      rw [select]
      refine (evaluate_fails sound refuses condition (formed _ (by simp)) inCondition).before
        fun x => ?_
      refine (FailsAs.lift (x.fails_toBool (FormulaError.explainedBy_type trees))).before
        fun chosen => ?_
      cases chosen with
      | true =>
          exact evaluate_fails sound refuses yes (formed _ (by simp))
            (List.append_subset.mp inYes).1
      | false => exact .pure _
  | .cond, condition :: yes :: no :: others, formed, within, _ => by
      obtain ⟨inCondition, inBranches⟩ := List.append_subset.mp within
      obtain ⟨inYes, inNo⟩ := List.append_subset.mp inBranches
      rw [select]
      refine (evaluate_fails sound refuses condition (formed _ (by simp)) inCondition).before
        fun x => ?_
      refine (FailsAs.lift (x.fails_toBool (FormulaError.explainedBy_type trees))).before
        fun chosen => ?_
      cases chosen with
      | true => exact evaluate_fails sound refuses yes (formed _ (by simp)) inYes
      | false =>
          exact evaluate_fails sound refuses no (formed _ (by simp)) (List.append_subset.mp inNo).1
  | .ifError, [], _, _, admitted => absurd admitted.1 (by decide)
  | .ifError, [_], _, _, admitted => absurd (show 2 ≤ 1 from admitted.1) (by decide)
  | .ifError, [value, fallback], formed, within, _ => by
      obtain ⟨_, inFallback⟩ := List.append_subset.mp within
      rw [select]
      exact .tryCatch fun _ => evaluate_fails sound refuses fallback (formed _ (by simp))
        (List.append_subset.mp inFallback).1
  | .ifError, _ :: _ :: _ :: _, _, _, admitted =>
      absurd (admitted.2 2 rfl) (by simp)

end

end Source

theorem Session.explains_of_evaluate {session : Session} {expr : Expr} {error : FormulaError}
    (formed : expr.WellFormed) (fails : (session.evaluate expr).1 = .error error) :
    error.ExplainedBy expr.subtrees :=
  Source.evaluate_fails session.grid.sound_source session.grid.refuses_source expr formed
    (List.Subset.refl _) session.meter error fails

theorem Grid.text_parse_error_iff {grid : Grid} {options : Options} {formula : String} :
    (∃ cause, grid.text options formula = .error (.parse cause)) ↔
      ∀ expr, options.parse formula ≠ .ok expr := by
  unfold Grid.text Grid.value
  cases parses : options.parse formula with
  | error error =>
      obtain ⟨cause, rfl⟩ := eq_parse_of_parse_error parses
      exact iff_of_true ⟨cause, rfl⟩ nofun
  | ok expr =>
      refine iff_of_false (fun ⟨cause, fails⟩ => ?_) fun unread => unread expr rfl
      have formed := wellFormed_of_parse parses
      cases ends : ((Session.start grid options).evaluate expr).1 with
      | error error =>
          change ((Session.start grid options).evaluate expr).1 >>= Value.toText = _ at fails
          rw [ends] at fails
          cases fails
          exact (Session.explains_of_evaluate formed ends).elim
      | ok value =>
          change ((Session.start grid options).evaluate expr).1 >>= Value.toText = _ at fails
          rw [ends] at fails
          cases ((Session.wellFormed_of_evaluate formed ends).toText_error fails).2

/-- A formula that cannot be read fails with an error of syntax. One that can be read fails with
no such error, and with any other only where its tree gives a reason; functions that got as many
arguments as they admit miss none. So the text of a formula is an error of syntax exactly when the
formula cannot be read. -/
theorem Grid.errors_explained (grid : Grid) (options : Options) :
    (∀ (formula : String) (error : FormulaError), options.parse formula = .error error →
      ∃ cause, error = .parse cause) ∧
    (∀ (reading : Options) (formula : String) (expr : Expr) (session : Session)
      (error : FormulaError), reading.parse formula = .ok expr →
      (session.evaluate expr).1 = .error error → error.ExplainedBy expr.subtrees) ∧
    (∀ (f : Strict) (args : List Value), (∀ value ∈ args, value.WellFormed) →
      f.arity.Admits args.length → ∀ function expected actual,
        f.apply args ≠ .error (.argumentCount function expected actual)) ∧
    ∀ formula : String, (∃ cause, grid.text options formula = .error (.parse cause)) ↔
      ∀ expr, options.parse formula ≠ .ok expr := by
  refine ⟨fun _ _ => eq_parse_of_parse_error, ?_, ?_, fun _ => text_parse_error_iff⟩
  · intro reading formula expr session error parses fails
    exact Session.explains_of_evaluate (wellFormed_of_parse parses) fails
  · intro f args formed admitted function expected actual fails
    exact fails_apply formed admitted _ fails

end Spreadsheet
