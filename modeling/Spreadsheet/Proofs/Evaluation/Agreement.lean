import Spreadsheet.Evaluation
import Spreadsheet.Proofs.Formula.Subtrees

/-! Evaluations that read alike and so end alike. -/

namespace Spreadsheet

open Spreadsheet.Formula

variable {σ τ : Type} {α β : Type}

namespace Metered

theorem run_bind (first : Metered σ α) (next : α → Metered σ β) (state : σ) :
    (first >>= next).run state =
      match first.run state with
      | (.ok value, after) => (next value).run after
      | (.error error, after) => (.error error, after) := by
  change ExceptT.bindCont next (first.run state).1 (first.run state).2 = _
  rcases first.run state with ⟨result, after⟩
  cases result <;> rfl

theorem run_tryCatch (first : Metered σ α) (fallback : FormulaError → Metered σ α) (state : σ) :
    (tryCatch first fallback).run state =
      match first.run state with
      | (.ok value, after) => (.ok value, after)
      | (.error error, after) => (fallback error).run after := by
  rw [ExceptT.run_tryCatch]
  change StateT.bind first.run _ state = _
  unfold StateT.bind
  change (match first.run state with | (result, after) => _) = _
  rcases first.run state with ⟨result, after⟩
  cases result <;> rfl

end Metered

theorem Grid.source_range_run (grid : Grid) (range : Range) (meter : Meter) :
    (grid.source.range range).run meter =
      if meter.remaining < range.cellCount then
        (.error (.invalidReference
          (.rangeTooLarge range range.cellCount.toNat meter.remaining.toNat)), meter)
      else (.ok (grid.typedRange range), meter.draw range.cellCount) := by
  change (grid.meteredRange range).run meter = _
  unfold Grid.meteredRange
  rw [Metered.run_bind]
  change ExceptT.run (if meter.remaining < range.cellCount then _ else _ : Metered Meter Value)
    meter = _
  split
  next => rfl
  next => rfl

/-- From related states two computations end alike and in related states. -/
def Agrees (related : σ → τ → Prop) (a : Metered σ α) (b : Metered τ α) : Prop :=
  ∀ s t, related s t → (a.run s).1 = (b.run t).1 ∧ related (a.run s).2 (b.run t).2

namespace Agrees

variable {related : σ → τ → Prop}

theorem pure (value : α) :
    Agrees related (Pure.pure value : Metered σ α) (Pure.pure value) :=
  fun _ _ states => ⟨rfl, states⟩

theorem throw (error : FormulaError) :
    Agrees related (MonadExcept.throw error : Metered σ α) (MonadExcept.throw error) :=
  fun _ _ states => ⟨rfl, states⟩

theorem bind {a : Metered σ α} {b : Metered τ α} {f : α → Metered σ β} {g : α → Metered τ β}
    (first : Agrees related a b) (next : ∀ value, Agrees related (f value) (g value)) :
    Agrees related (a >>= f) (b >>= g) := by
  intro s t states
  have ends := first s t states
  rw [Metered.run_bind, Metered.run_bind]
  revert ends
  rcases a.run s with ⟨left, s'⟩
  rcases b.run t with ⟨right, t'⟩
  rintro ⟨rfl, after⟩
  cases left with
  | ok value => exact next value s' t' after
  | error error => exact ⟨rfl, after⟩

theorem tryCatch {a : Metered σ α} {b : Metered τ α} {f : FormulaError → Metered σ α}
    {g : FormulaError → Metered τ α} (first : Agrees related a b)
    (fallback : ∀ error, Agrees related (f error) (g error)) :
    Agrees related (MonadExcept.tryCatch a f) (MonadExcept.tryCatch b g) := by
  intro s t states
  have ends := first s t states
  rw [Metered.run_tryCatch, Metered.run_tryCatch]
  revert ends
  rcases a.run s with ⟨left, s'⟩
  rcases b.run t with ⟨right, t'⟩
  rintro ⟨rfl, after⟩
  cases left with
  | ok value => exact ⟨rfl, after⟩
  | error error => exact fallback error s' t' after

end Agrees

/-- A relation between computations that goes through all steps of an evaluation, but for recovery
from an error. -/
structure Comparison (σ τ : Type) where
  holds : {α : Type} → Metered σ α → Metered τ α → Prop
  pure : ∀ {α : Type} (value : α), holds (Pure.pure value) (Pure.pure value)
  throw : ∀ {α : Type} (error : FormulaError),
    holds (MonadExcept.throw error : Metered σ α) (MonadExcept.throw error)
  bind : ∀ {α β : Type} {a : Metered σ α} {b : Metered τ α} {f : α → Metered σ β}
    {g : α → Metered τ β}, holds a b → (∀ value, holds (f value) (g value)) →
      holds (a >>= f) (b >>= g)

namespace Comparison

variable (comparison : Comparison σ τ)

theorem lift (result : Except FormulaError α) :
    comparison.holds (liftM result : Metered σ α) (liftM result) := by
  cases result with
  | ok value => exact comparison.pure value
  | error error => exact comparison.throw error

def Recovers : Prop :=
  ∀ {a : Metered σ Value} {b : Metered τ Value} {f : FormulaError → Metered σ Value}
    {g : FormulaError → Metered τ Value}, comparison.holds a b →
      (∀ error, comparison.holds (f error) (g error)) →
        comparison.holds (MonadExcept.tryCatch a f) (MonadExcept.tryCatch b g)

/-- Among the trees, two sources read the same cells and compare in ranges; and where a call
recovers from errors, so does the comparison. -/
structure Covers (a : Source σ) (b : Source τ) (trees : List Expr) : Prop where
  cell : ∀ address, .cell address ∈ trees → a.cell address = b.cell address
  range : ∀ range, .range range ∈ trees → comparison.holds (a.range range) (b.range range)
  recovers : ∀ name arguments, .call name arguments ∈ trees →
    Builtin.ofName? name = some (.selective .ifError) → comparison.Recovers

variable {comparison} {a : Source σ} {b : Source τ}

theorem Covers.mono {trees fewer : List Expr} (covers : comparison.Covers a b trees)
    (among : ∀ tree ∈ fewer, tree ∈ trees) : comparison.Covers a b fewer where
  cell address member := covers.cell address (among _ member)
  range range member := covers.range range (among _ member)
  recovers name arguments member := covers.recovers name arguments (among _ member)

theorem Covers.tail {tree : Expr} {trees : List Expr}
    (covers : comparison.Covers a b (tree :: trees)) : comparison.Covers a b trees :=
  covers.mono fun _ => List.mem_cons_of_mem _

theorem Covers.left {trees others : List Expr} (covers : comparison.Covers a b (trees ++ others)) :
    comparison.Covers a b trees := covers.mono fun _ => List.mem_append_left _

theorem Covers.right {trees others : List Expr}
    (covers : comparison.Covers a b (trees ++ others)) : comparison.Covers a b others :=
  covers.mono fun _ => List.mem_append_right _

mutual

/-- The evaluations of a tree compare as the reads of its references do. -/
theorem evaluate_holds : (expr : Expr) → comparison.Covers a b expr.subtrees →
    comparison.holds (a.evaluate expr) (b.evaluate expr)
  | .number _, _ => comparison.pure _
  | .text _, _ => comparison.pure _
  | .boolean _, _ => comparison.pure _
  | .name _, _ => comparison.throw _
  | .cell address, covers => by
      have same := covers.cell address List.mem_cons_self
      rw [Source.evaluate, Source.evaluate, same]
      exact comparison.pure _
  | .range rectangle, covers => covers.range rectangle List.mem_cons_self
  | .binary op left right, covers => by
      rw [Source.evaluate, Source.evaluate]
      refine comparison.bind (evaluate_holds left covers.tail.left) fun x => ?_
      refine comparison.bind (comparison.lift x.scalar) fun x => ?_
      refine comparison.bind (evaluate_holds right covers.tail.right) fun y => ?_
      exact comparison.bind (comparison.lift y.scalar) fun y => comparison.lift _
  | .unary op operand, covers => by
      rw [Source.evaluate, Source.evaluate]
      exact comparison.bind (evaluate_holds operand covers.tail) fun x => comparison.lift _
  | .call name arguments, covers => by
      rw [Source.evaluate, Source.evaluate]
      cases found : Builtin.ofName? name with
      | none => exact comparison.throw _
      | some function =>
          refine comparison.bind (comparison.lift _) fun _ => ?_
          cases function with
          | strict f =>
              exact comparison.bind (evaluateAll_holds arguments covers.tail) fun _ =>
                comparison.lift _
          | selective f =>
              refine select_holds f arguments covers.tail ?_
              rintro rfl
              exact covers.recovers name arguments List.mem_cons_self found

theorem evaluateAll_holds : (exprs : List Expr) →
    comparison.Covers a b (Expr.subtreesAll exprs) →
    comparison.holds (a.evaluateAll exprs) (b.evaluateAll exprs)
  | [], _ => comparison.pure _
  | first :: others, covers => by
      rw [Source.evaluateAll, Source.evaluateAll]
      refine comparison.bind (evaluate_holds first covers.left) fun x => ?_
      exact comparison.bind (evaluateAll_holds others covers.right) fun _ => comparison.pure _

theorem select_holds : (function : Selective) → (exprs : List Expr) →
    comparison.Covers a b (Expr.subtreesAll exprs) →
    (function = .ifError → comparison.Recovers) →
    comparison.holds (a.select function exprs) (b.select function exprs)
  | .cond, [], _, _ => comparison.throw _
  | .cond, [condition], covers, _ => by
      rw [Source.select, Source.select]
      refine comparison.bind (evaluate_holds condition covers.left) fun x => ?_
      refine comparison.bind (comparison.lift x.toBool) fun chosen => ?_
      cases chosen with
      | true => exact comparison.throw _
      | false => exact comparison.pure _
  | .cond, [condition, yes], covers, _ => by
      rw [Source.select, Source.select]
      refine comparison.bind (evaluate_holds condition covers.left) fun x => ?_
      refine comparison.bind (comparison.lift x.toBool) fun chosen => ?_
      cases chosen with
      | true => exact evaluate_holds yes covers.right.left
      | false => exact comparison.pure _
  | .cond, condition :: yes :: no :: _, covers, _ => by
      rw [Source.select, Source.select]
      refine comparison.bind (evaluate_holds condition covers.left) fun x => ?_
      refine comparison.bind (comparison.lift x.toBool) fun chosen => ?_
      cases chosen with
      | true => exact evaluate_holds yes covers.right.left
      | false => exact evaluate_holds no covers.right.right.left
  | .ifError, [], _, _ => comparison.throw _
  | .ifError, [_], _, _ => comparison.throw _
  | .ifError, [value, fallback], covers, recovers => by
      rw [Source.select, Source.select]
      exact recovers rfl (evaluate_holds value covers.left) fun _ =>
        evaluate_holds fallback covers.right.left
  | .ifError, _ :: _ :: _ :: _, _, _ => comparison.throw _

end

end Comparison

def agreement (related : σ → τ → Prop) : Comparison σ τ where
  holds := Agrees related
  pure := .pure
  throw := .throw
  bind := .bind

structure Source.Alike (related : σ → τ → Prop) (a : Source σ) (b : Source τ)
    (trees : List Expr) : Prop where
  cell : ∀ address, .cell address ∈ trees → a.cell address = b.cell address
  range : ∀ range, .range range ∈ trees → Agrees related (a.range range) (b.range range)

/-- A tree has the same value under two sources that read its references alike. -/
theorem Source.evaluate_agrees {related : σ → τ → Prop} {a : Source σ} {b : Source τ}
    (expr : Expr) (alike : Source.Alike related a b expr.subtrees) :
    Agrees related (a.evaluate expr) (b.evaluate expr) := by
  have covers : (agreement related).Covers a b expr.subtrees :=
    ⟨alike.cell, alike.range, fun _ _ _ _ => Agrees.tryCatch⟩
  exact Comparison.evaluate_holds expr covers

end Spreadsheet
