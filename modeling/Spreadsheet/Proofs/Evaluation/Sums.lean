import Spreadsheet.Proofs.Builtin.Average
import Spreadsheet.Proofs.Evaluation.Ordering
import Spreadsheet.Proofs.Evaluation.Ranges

namespace Spreadsheet

open Spreadsheet.Binary
open Spreadsheet.Decimal (unsignedZero)
open Spreadsheet.Formula

theorem Value.numericEntry?_of_reads {value : Value} {n : Float} (reads : value.number? = some n)
    (filled : value.isEmpty = false) : value.numericEntry? = some n := by
  cases value with
  | empty => cases filled
  | array rows => cases reads
  | number | text | boolean => exact reads

theorem entriesOf_scalars {values : List Value}
    (scalars : ∀ value ∈ values, value.isArray = false) : entriesOf values = values := by
  have single : ∀ value ∈ values, value.entries = [value] := by
    intro value member
    have scalar := scalars value member
    cases value with
    | array rows => cases scalar
    | number | text | boolean | empty => rfl
  unfold entriesOf
  rw [List.flatMap_congr single, List.flatMap_singleton']

section Numeric

variable {values : List Value} (numeric : ∀ value ∈ values, value.number?.isSome = true)

include numeric

theorem numericEntries_scalars :
    numericEntries values = values.filterMap Value.numericEntry? := by
  refine congrArg _ (entriesOf_scalars fun value member => ?_)
  obtain ⟨n, reads⟩ := Option.isSome_iff_exists.mp (numeric value member)
  exact Value.scalar_of_reads reads

/-- Empty values are left out of one sum, and add zeros to the other. -/
theorem unsignedZero_foldl_numericEntry? {x z : Float} (same : unsignedZero x = unsignedZero z) :
    unsignedZero ((values.filterMap Value.numericEntry?).foldl (· + ·) x) =
      unsignedZero ((values.filterMap Value.number?).foldl (· + ·) z) := by
  induction values generalizing x z with
  | nil => exact same
  | cons value values ih =>
      obtain ⟨first, others⟩ := List.forall_mem_cons.mp numeric
      obtain ⟨n, reads⟩ := Option.isSome_iff_exists.mp first
      rw [List.filterMap_cons_some reads]
      cases filled : value.isEmpty with
      | false =>
          rw [List.filterMap_cons_some (Value.numericEntry?_of_reads reads filled)]
          exact ih others (unsignedZero_add_congr same n)
      | true =>
          obtain rfl : value = .empty := by
            cases value with
            | empty => rfl
            | number | text | boolean | array => cases filled
          obtain rfl : 0 = n := Option.some.inj reads
          exact ih others (same.trans (unsignedZero_add_zero rfl z).symm)

end Numeric

namespace Session

/-- The values of formulas, each evaluated in the session that the one before it left. -/
inductive Evaluates : Session → List Expr → List Value → Session → Prop
  | nil (session : Session) : Evaluates session [] [] session
  | cons {session next after : Session} {first : Expr} {others : List Expr} {value : Value}
      {values : List Value} (head : session.evaluate first = (.ok value, next))
      (tail : Evaluates next others values after) :
      Evaluates session (first :: others) (value :: values) after

namespace Evaluates

variable {session after : Session} {arguments : List Expr} {values : List Value}

theorem run_evaluateAll (evaluates : Evaluates session arguments values after) :
    (session.grid.source.evaluateAll arguments).run session.meter = (.ok values, after.meter) ∧
      after.grid = session.grid := by
  induction evaluates with
  | nil => exact ⟨rfl, rfl⟩
  | cons head _ ih =>
      obtain ⟨reads, sameGrid⟩ := evaluate_eq_iff.mp head
      rw [sameGrid] at ih
      obtain ⟨others, sameGrid'⟩ := ih
      refine ⟨?_, sameGrid'⟩
      rw [Source.evaluateAll, Metered.run_bind, reads]
      dsimp only
      rw [Metered.run_bind, others]
      rfl

/-- A function of all its arguments gets their values. -/
theorem evaluate_call (evaluates : Evaluates session arguments values after) {name : String}
    {f : Strict} (named : Builtin.ofName? name = some (.strict f))
    (admits : f.arity.Admits arguments.length) :
    session.evaluate (.call name arguments) = (f.apply values, after) := by
  obtain ⟨reads, sameGrid⟩ := evaluates.run_evaluateAll
  obtain ⟨grid, meter⟩ := after
  obtain rfl : grid = session.grid := sameGrid
  rw [session.evaluate_call named admits]
  unfold run
  rw [Metered.run_bind, reads]
  dsimp only
  cases f.apply values <;> rfl

end Evaluates

/-- A formula and others added to it one after another. -/
def additions (first : Expr) (others : List Expr) : Expr := others.foldl (.binary .add) first

/-- What an addition comes to: its total, unless that is not finite. -/
inductive Totals (session : Session) (e : Expr) (total : Float) (after : Session) : Prop
  | number (finite : total.isFinite = true)
      (evaluates : session.evaluate e = (.ok (.number total), after))
  | overflow (infinite : total.isFinite = false) (cause : NumericFault)
      (fails : (session.evaluate e).1 = .error (.numeric cause))

section Add

variable {session next after : Session} {left right : Expr} {a b : Value} {x z : Float}

theorem totals_add (first : session.evaluate left = (.ok a, next)) (readsA : a.number? = some x)
    (second : next.evaluate right = (.ok b, after)) (readsB : b.number? = some z) :
    Totals session (.binary .add left right) (x + z) after := by
  have sum : BinaryOp.add.apply a b = Value.finite (x + z) := by
    unfold BinaryOp.apply
    rw [Value.toNumber_of_reads readsA, Value.toNumber_of_reads readsB]
    rfl
  have evaluates := evaluate_binary first second (Value.scalar_of_reads readsA)
    (Value.scalar_of_reads readsB) .add
  rw [sum] at evaluates
  cases finite : (x + z).isFinite with
  | true =>
      rw [Value.finite_of_isFinite finite] at evaluates
      exact .number finite evaluates
  | false =>
      rw [Value.finite_of_not_isFinite finite] at evaluates
      exact .overflow finite _ (congrArg Prod.fst evaluates)

namespace Totals

/-- One more number is added, if there is a total yet. -/
theorem add (totals : Totals session left x next) (second : next.evaluate right = (.ok b, after))
    (reads : b.number? = some z) : Totals session (.binary .add left right) (x + z) after := by
  cases totals with
  | number finite evaluates => exact totals_add evaluates rfl second reads
  | overflow infinite cause fails =>
      have sum := evaluate_binary_left (Prod.ext fails rfl) .add right
      refine .overflow ?_ cause (congrArg Prod.fst sum)
      refine Bool.eq_false_iff.mpr fun finite => ?_
      rw [(isFinite_of_add finite).1] at infinite
      cases infinite

/-- A chain of additions comes to the sum of the numbers in order. -/
theorem foldl_add {others : List Expr} {values : List Value} (totals : Totals session left x next)
    (evaluates : Evaluates next others values after)
    (numeric : ∀ value ∈ values, value.number?.isSome = true) :
    Totals session (additions left others) ((values.filterMap Value.number?).foldl (· + ·) x)
      after := by
  induction evaluates generalizing left x with
  | nil => exact totals
  | cons head _ ih =>
      obtain ⟨first, others⟩ := List.forall_mem_cons.mp numeric
      obtain ⟨n, reads⟩ := Option.isSome_iff_exists.mp first
      rw [List.filterMap_cons_some reads]
      exact ih (totals.add head reads) others

end Totals

end Add

/-- The function starts from a zero, and the additions from the first number. -/
theorem unsignedZero_sum {a b : Value} {values : List Value} {m n : Float}
    (numeric : ∀ value ∈ a :: b :: values, value.number?.isSome = true)
    (readsA : a.number? = some m) (readsB : b.number? = some n) :
    unsignedZero (Aggregate.total (a :: b :: values)) =
      unsignedZero ((values.filterMap Value.number?).foldl (· + ·) (m + n)) := by
  have start : unsignedZero (-0.0) = unsignedZero 0 := rfl
  rw [Aggregate.total, numericEntries_scalars numeric,
    unsignedZero_foldl_numericEntry? numeric start,
    List.filterMap_cons_some readsA, List.filterMap_cons_some readsB, List.foldl_cons,
    List.foldl_cons]
  exact unsignedZero_foldl_congr (unsignedZero_add_congr (unsignedZero_zero_add rfl m) n) _

/-- Two formulas with one number up to the sign of a zero, or without a value because it is not
finite. -/
inductive Agree (session : Session) (e e' : Expr) (after : Session) : Prop
  | numbers (x z : Float) (first : session.evaluate e = (.ok (.number x), after))
      (second : session.evaluate e' = (.ok (.number z), after))
      (same : unsignedZero x = unsignedZero z)
  | overflow (cause cause' : NumericFault)
      (first : (session.evaluate e).1 = .error (.numeric cause))
      (second : (session.evaluate e').1 = .error (.numeric cause'))

/-- The sum of at least two scalars that are read as numbers agrees with additions of them. -/
theorem sum_agrees_with_additions {session after : Session} {name : String} {first second : Expr}
    {others : List Expr} {values : List Value} (named : Builtin.ofName? name = some (.strict .sum))
    (evaluates : Evaluates session (first :: second :: others) values after)
    (numeric : ∀ value ∈ values, value.number?.isSome = true) :
    Agree session (.call name (first :: second :: others)) (additions first (second :: others))
      after := by
  have call := evaluates.evaluate_call named ⟨Nat.succ_pos _, nofun⟩
  rw [Aggregate.sum_eq] at call
  cases evaluates with
  | cons headA tail =>
      cases tail with
      | @cons _ _ _ _ _ b values headB tail =>
          obtain ⟨m, readsA⟩ := Option.isSome_iff_exists.mp (numeric _ List.mem_cons_self)
          obtain ⟨n, readsB⟩ := Option.isSome_iff_exists.mp
            (numeric b (List.mem_cons_of_mem _ List.mem_cons_self))
          have rest : ∀ value ∈ values, value.number?.isSome = true := fun value member =>
            numeric value (List.mem_cons_of_mem _ (List.mem_cons_of_mem _ member))
          have totals := (totals_add headA readsA headB readsB).foldl_add tail rest
          have same := unsignedZero_sum numeric readsA readsB
          have finiteTogether := isFinite_congr same
          cases totals with
          | number finite sums =>
              rw [finite] at finiteTogether
              rw [Value.finite_of_isFinite finiteTogether] at call
              exact .numbers _ _ call sums same
          | overflow infinite cause fails =>
              rw [infinite] at finiteTogether
              rw [Value.finite_of_not_isFinite finiteTogether] at call
              exact .overflow _ cause (congrArg Prod.fst call) fails

/-- A number, a text, a truth value and a blank cell. -/
theorem sum_agrees_with_additions_mixed :
    let session := start .empty .standard
    let others : List Expr := [.boolean true, .cell (.relative 0 0)]
    let values : List Value := [.number 1, .text "2.5", .boolean true, .empty]
    Builtin.ofName? "SUM" = some (.strict .sum) ∧
      Evaluates session (.number 1 :: .text "2.5" :: others) values session ∧
      (∀ value ∈ values, value.number?.isSome = true) ∧
      Agree session (.call "SUM" (.number 1 :: .text "2.5" :: others))
        (additions (.number 1) (.text "2.5" :: others)) session := by
  intro session others values
  have named : Builtin.ofName? "SUM" = some (.strict .sum) := by decide
  have evaluates : Evaluates session (.number 1 :: .text "2.5" :: others) values session :=
    .cons rfl (.cons rfl (.cons rfl (.cons rfl (.nil session))))
  have numeric : ∀ value ∈ values, value.number?.isSome = true := by decide
  exact ⟨named, evaluates, numeric, sum_agrees_with_additions named evaluates numeric⟩

end Session

end Spreadsheet
