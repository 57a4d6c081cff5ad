import Spreadsheet.Proofs.Builtin.Aggregate
import Spreadsheet.Proofs.Evaluation.Sums
import Spreadsheet.Proofs.Evaluation.WellFormed

namespace Spreadsheet

open Spreadsheet.Formula

namespace Value

variable {value : Value} {text : String}

theorem WellFormed.exists_toText (formed : value.WellFormed) (scalar : value.isArray = false) :
    ∃ text, value.toText = .ok text := by
  cases shows : value.toText with
  | ok text => exact ⟨text, rfl⟩
  | error error =>
      rw [(formed.toText_error shows).1] at scalar
      cases scalar

theorem scalar_of_toText (shows : value.toText = .ok text) : value.isArray = false := by
  cases value with
  | array rows => cases shows
  | number | text | boolean | empty => rfl

end Value

theorem apply_concat {a b : Value} {s t : String} (first : a.toText = .ok s)
    (second : b.toText = .ok t) : BinaryOp.concat.apply a b = .ok (.text (s ++ t)) := by
  unfold BinaryOp.apply
  rw [first, second]
  rfl

namespace Aggregate

theorem concatenate_eq (args : List Value) :
    Strict.concatenate.apply args = (joined (entriesOf args)).map .text := by
  change concatenate args = _
  unfold concatenate joined
  cases (entriesOf args).mapM Value.toText <;> rfl

theorem joined_entriesOf_cons {value : Value} {text : String} (shows : value.toText = .ok text)
    (args : List Value) :
    joined (entriesOf (value :: args)) = (joined (entriesOf args)).map (text ++ ·) := by
  have entries : entriesOf (value :: args) = value :: entriesOf args := by
    have single := entriesOf_scalars
      (List.forall_mem_singleton.mpr (Value.scalar_of_toText shows))
    calc entriesOf ([value] ++ args)
      _ = entriesOf [value] ++ entriesOf args := List.flatMap_append
      _ = [value] ++ entriesOf args := by rw [single]
  rw [entries, joined_cons, shows]
  cases joined (entriesOf args) <;> rfl

end Aggregate

namespace Session

/-- No formula that is come to has an array as its value. -/
def Scalars : Session → List Expr → Prop
  | _, [] => True
  | session, first :: others => ∀ value next, session.evaluate first = (.ok value, next) →
      value.isArray = false ∧ Scalars next others

/-- What formulas show together: the text of each behind those before it, or the error of the first
one without a value. What stands behind that one is not evaluated. -/
inductive Shows : Session → List Expr → Except FormulaError String → Session → Prop
  | nil (session : Session) : Shows session [] (.ok "") session
  | failure {session after : Session} {first : Expr} {others : List Expr} {error : FormulaError}
      (fails : session.evaluate first = (.error error, after)) :
      Shows session (first :: others) (.error error) after
  | cons {session next after : Session} {first : Expr} {others : List Expr} {value : Value}
      {text : String} {result : Except FormulaError String}
      (head : session.evaluate first = (.ok value, next)) (shows : value.toText = .ok text)
      (tail : Shows next others result after) :
      Shows session (first :: others) (result.map (text ++ ·)) after

/-- Scalars of what can be read always have a text. -/
theorem exists_shows {session : Session} {operands : List Expr}
    (formed : ∀ operand ∈ operands, operand.WellFormed) (scalars : session.Scalars operands) :
    ∃ result after, Shows session operands result after := by
  induction operands generalizing session with
  | nil => exact ⟨_, _, .nil session⟩
  | cons first others ih =>
      obtain ⟨firstFormed, othersFormed⟩ := List.forall_mem_cons.mp formed
      rcases head : session.evaluate first with ⟨error | value, next⟩
      · exact ⟨_, _, .failure head⟩
      · obtain ⟨scalar, rest⟩ := scalars value next head
        obtain ⟨result, after, tail⟩ := ih othersFormed rest
        have valueFormed := wellFormed_of_evaluate firstFormed (congrArg Prod.fst head)
        obtain ⟨text, shows⟩ := valueFormed.exists_toText scalar
        exact ⟨_, _, .cons head shows tail⟩

/-- A formula and others put behind it one after another. -/
def concatenations (first : Expr) (others : List Expr) : Expr :=
  others.foldl (.binary .concat) first

theorem evaluate_concatenations_of_error {session after : Session} {left : Expr}
    {error : FormulaError} (fails : session.evaluate left = (.error error, after))
    (others : List Expr) :
    session.evaluate (concatenations left others) = (.error error, after) := by
  induction others generalizing left with
  | nil => exact fails
  | cons first others ih => exact ih (evaluate_binary_left fails .concat first)

namespace Shows

variable {session next after : Session} {operands : List Expr}
  {result : Except FormulaError String}

/-- Behind the first operand everything is put to a text. -/
theorem evaluate_concatenations {left : Expr} {value : Value} {text : String}
    (shows : Shows next operands result after)
    (evaluates : session.evaluate left = (.ok value, next))
    (shown : value.toText = .ok text) (ends : operands = [] → value = .text text) :
    session.evaluate (concatenations left operands) =
      ((result.map (text ++ ·)).map .text, after) := by
  induction shows generalizing left value text with
  | nil next =>
      rw [ends rfl] at evaluates
      change session.evaluate left = (.ok (.text (text ++ "")), next)
      rw [String.append_empty, evaluates]
  | failure fails =>
      have scalar := Value.scalar_of_toText shown
      have stops := evaluate_binary_right evaluates scalar fails .concat
      exact evaluate_concatenations_of_error stops _
  | @cons _ _ _ _ _ _ _ result head shows _ ih =>
      have joins := evaluate_binary evaluates head (Value.scalar_of_toText shown)
        (Value.scalar_of_toText shows) .concat
      rw [apply_concat shown shows] at joins
      refine (ih joins rfl fun _ => rfl).trans ?_
      cases result with
      | error error => rfl
      | ok rest => simp only [Except.map, String.append_assoc]

/-- The function gets the values, unless one is missing. -/
theorem run_evaluateAll (shows : Shows session operands result after) :
    after.grid = session.grid ∧
      ∃ values, (session.grid.source.evaluateAll operands).run session.meter =
        (values, after.meter) ∧ (do Aggregate.joined (entriesOf (← values))) = result := by
  induction shows with
  | nil session => exact ⟨rfl, .ok [], rfl, rfl⟩
  | failure fails =>
      obtain ⟨run, sameGrid⟩ := evaluate_eq_iff.mp fails
      refine ⟨sameGrid, .error _, ?_, rfl⟩
      rw [Source.evaluateAll, Metered.run_bind, run]
  | @cons _ _ _ _ _ value _ _ head shows _ ih =>
      obtain ⟨run, sameGrid⟩ := evaluate_eq_iff.mp head
      rw [sameGrid] at ih
      obtain ⟨sameGrid', values, later, rfl⟩ := ih
      refine ⟨sameGrid', values.map (value :: ·), ?_, ?_⟩
      · rw [Source.evaluateAll, Metered.run_bind, run]
        dsimp only
        rw [Metered.run_bind, later]
        cases values <;> rfl
      · cases values with
        | error error => rfl
        | ok values => exact Aggregate.joined_entriesOf_cons shows values

theorem evaluate_call (shows : Shows session operands result after) {name : String}
    (named : Builtin.ofName? name = some (.strict .concatenate)) (filled : operands ≠ []) :
    session.evaluate (.call name operands) = (result.map .text, after) := by
  have admits : Strict.concatenate.arity.Admits operands.length :=
    ⟨List.length_pos_iff.mpr filled, nofun⟩
  obtain ⟨sameGrid, values, run, rfl⟩ := shows.run_evaluateAll
  obtain ⟨grid, meter⟩ := after
  obtain rfl : grid = session.grid := sameGrid
  rw [session.evaluate_call named admits]
  unfold Session.run
  rw [Metered.run_bind, run]
  cases values with
  | error error => rfl
  | ok values =>
      dsimp only
      rw [Aggregate.concatenate_eq]
      change _ = ((Aggregate.joined (entriesOf values)).map Value.text, _)
      cases Aggregate.joined (entriesOf values) <;> rfl

end Shows

/-- Of two formulas or more without an array among their values, the operator between them and the
function of them show the same, or fail with the error of the first one that does, and the
allowance they leave is the same. All that can be read is well-formed (`wellFormed_of_parse`). -/
theorem concatenation_agrees {session : Session} {name : String} {first second : Expr}
    {others : List Expr} (named : Builtin.ofName? name = some (.strict .concatenate))
    (formed : ∀ operand ∈ first :: second :: others, operand.WellFormed)
    (scalars : session.Scalars (first :: second :: others)) :
    ∃ result after, Shows session (first :: second :: others) result after ∧
      session.evaluate (concatenations first (second :: others)) = (result.map .text, after) ∧
      session.evaluate (.call name (first :: second :: others)) = (result.map .text, after) := by
  obtain ⟨result, after, shows⟩ := exists_shows formed scalars
  refine ⟨result, after, shows, ?_, shows.evaluate_call named (List.cons_ne_nil _ _)⟩
  cases shows with
  | failure fails => exact evaluate_concatenations_of_error fails _
  | cons head shown tail => exact tail.evaluate_concatenations head shown nofun

/-- A text, a number, a blank cell and a name that stands for nothing. -/
theorem concatenation_agrees_failing :
    let session := start .empty .standard
    let others : List Expr := [.cell (.relative 0 0), .name "x"]
    let operands : List Expr := .text "n" :: .number 1.5 :: others
    Builtin.ofName? "CONCATENATE" = some (.strict .concatenate) ∧
      (∀ operand ∈ operands, operand.WellFormed) ∧ session.Scalars operands ∧
      ∃ result after, Shows session operands result after ∧
        session.evaluate (concatenations (.text "n") (.number 1.5 :: others)) =
          (result.map .text, after) ∧
        session.evaluate (.call "CONCATENATE" operands) = (result.map .text, after) := by
  intro session others operands
  have named : Builtin.ofName? "CONCATENATE" = some (.strict .concatenate) := by decide
  have formed : ∀ operand ∈ operands, operand.WellFormed := by
    have leaf (e : Expr) (sound : e.IsSound) : ∀ tree ∈ [e], tree.IsSound :=
      List.forall_mem_singleton.mpr sound
    have finite : (1.5 : Float).isFinite = true := by decide
    have inside : (Address.relative 0 0).InSheet := ⟨by decide, by decide⟩
    simp only [operands, others, List.forall_mem_cons]
    exact ⟨leaf (.text "n") trivial, leaf (.number 1.5) finite, leaf (.cell _) inside,
      leaf (.name "x") trivial, List.forall_mem_nil _⟩
  have scalars : session.Scalars operands := by
    rintro _ _ ⟨⟩
    refine ⟨rfl, ?_⟩
    rintro _ _ ⟨⟩
    refine ⟨rfl, ?_⟩
    rintro _ _ ⟨⟩
    refine ⟨rfl, ?_⟩
    rintro _ _ ⟨⟩
  exact ⟨named, formed, scalars, concatenation_agrees named formed scalars⟩

end Session

end Spreadsheet
