import Spreadsheet.Proofs.Builtin.WellFormed

namespace Spreadsheet

open Spreadsheet.Formula
open Value (WellFormed)

variable {α β : Type}

/-- An error, if there is one, is as `allows` says. -/
def Fails (allows : FormulaError → Prop) (result : Except FormulaError α) : Prop :=
  ∀ error, result = .error error → allows error

namespace Fails

variable {allows : FormulaError → Prop} {accepts : α → Prop}

theorem ok (value : α) : Fails allows (.ok value) := nofun

theorem error {cause : FormulaError} (holds : allows cause) :
    Fails allows (.error cause : Except FormulaError α) := by
  rintro _ ⟨⟩
  exact holds

theorem bind {first : Except FormulaError α} {next : α → Except FormulaError β}
    (fails : Fails allows first) (gives : Gives accepts first)
    (continues : ∀ value, accepts value → Fails allows (next value)) :
    Fails allows (first >>= next) := by
  cases first with
  | error cause => exact error (fails cause rfl)
  | ok value => exact continues value (gives value rfl)

theorem before {first : Except FormulaError α} {next : α → Except FormulaError β}
    (fails : Fails allows first) (continues : ∀ value, Fails allows (next value)) :
    Fails allows (first >>= next) :=
  fails.bind (.any first) fun value _ => continues value

theorem mapM {items : List α} {convert : α → Except FormulaError β}
    (each : ∀ item ∈ items, Fails allows (convert item)) : Fails allows (items.mapM convert) := by
  induction items with
  | nil => exact ok _
  | cons first others ih =>
      obtain ⟨ofFirst, ofOthers⟩ := List.forall_mem_cons.mp each
      rw [List.mapM_cons]
      exact ofFirst.before fun _ => (ih ofOthers).before fun _ => ok _

end Fails

/-- As many arguments as the arity asks for, and no more than it takes. -/
def Arity.Admits (arity : Arity) (count : Nat) : Prop :=
  arity.least ≤ count ∧ ∀ most, arity.most = some most → count ≤ most

theorem Arity.broken?_eq_none_iff {arity : Arity} {count : Nat} :
    arity.broken? count = none ↔ arity.Admits count := by
  obtain ⟨least, most⟩ := arity
  unfold broken? Admits
  cases most with
  | none =>
      dsimp only
      split
      next few => simp [few]
      next enough => simp [Nat.le_of_not_lt enough]
  | some most =>
      simp only [Option.some.injEq, forall_eq']
      repeat' split
      all_goals simp only [reduceCtorEq, false_iff, true_iff]
      all_goals omega

section Conversions

variable {allows : FormulaError → Prop} (types : ∀ cause, allows (.type cause))
include types

theorem Value.fails_toNumber (value : Value) : Fails allows value.toNumber := by
  unfold toNumber
  split
  next => exact .ok _
  next => exact .error (types _)
  next => exact .error (types _)

theorem Value.fails_toBool (value : Value) : Fails allows value.toBool := by
  cases value with
  | array rows => exact .error (types _)
  | number | text | boolean | empty => exact .ok _

theorem Value.fails_scalar (value : Value) : Fails allows value.scalar := by
  unfold scalar
  split
  next => exact .error (types _)
  next => exact .ok _

theorem Value.fails_toInteger (value : Value) : Fails allows value.toInteger :=
  (value.fails_toNumber types).before fun _ => .ok _

/-- A well-formed value has a text unless it is an array. -/
theorem Value.WellFormed.fails_toText {value : Value} (wellFormed : value.WellFormed) :
    Fails allows value.toText := by
  intro error fails
  rw [(wellFormed.toText_error fails).2]
  exact types _

end Conversions

theorem Value.fails_finite {allows : FormulaError → Prop}
    (numeric : ∀ cause, allows (.numeric cause)) (n : Float) : Fails allows (finite n) := by
  unfold finite
  split
  next => exact .ok _
  next => exact .error (numeric _)

/-- The errors that a function ends with once it has as many arguments as it admits. -/
def Strict.Raises (f : Strict) : FormulaError → Prop
  | .type _ => True
  | .numeric _ => f ∈ [.sum, .average, .round, .mod]
  | .divisionByZero => f ∈ [.average, .mod]
  | .notAvailable function _ => function = f.name ∧ f ∈ [.vlookup, .hlookup]
  | .invalidReference (.indexOutside function _ _) => function = f.name ∧ f ∈ [.vlookup, .hlookup]
  | .invalidReference (.startBelowOne _) => f = .mid
  | _ => False

theorem Strict.raises_type (f : Strict) (cause : TypeFault) : f.Raises (.type cause) := trivial

section Functions

variable {args : List Value} {allows : FormulaError → Prop}

theorem fails_argument {index : Nat} (given : index < args.length) (function : Strict) :
    Fails allows (argument function args index) := by
  unfold argument
  rw [List.getElem?_eq_getElem given]
  exact .ok _

namespace Aggregate

theorem fails_sum (args : List Value) : Fails Strict.sum.Raises (sum args) :=
  Value.fails_finite (fun _ => by simp [Strict.Raises]) _

theorem fails_average (args : List Value) : Fails Strict.average.Raises (average args) := by
  unfold average
  dsimp only
  split
  next => exact .error (by simp [Strict.Raises])
  next => exact Value.fails_finite (fun _ => by simp [Strict.Raises]) _

theorem fails_reduce (combine : Float → Float → Float) (args : List Value) :
    Fails allows (reduce combine args) := by
  unfold reduce
  split <;> exact .ok _

theorem fails_concatenate (wellFormed : ∀ value ∈ args, value.WellFormed) :
    Fails Strict.concatenate.Raises (concatenate args) := by
  refine (Fails.mapM fun entry inside => ?_).before fun _ => .ok _
  obtain ⟨value, listed, among⟩ := List.mem_flatMap.mp inside
  exact ((wellFormed value listed).entries entry among).fails_toText (Strict.raises_type _)

theorem fails_truthValues (types : ∀ cause, allows (.type cause)) (function : Strict)
    (value : Value) : Fails allows (truthValues function value) := by
  cases value with
  | text s =>
      unfold truthValues
      dsimp only
      split
      next => exact .ok _
      next => exact .error (types _)
  | number | boolean | array | empty => exact .ok _

theorem fails_allTruthValues (types : ∀ cause, allows (.type cause)) (function : Strict)
    (args : List Value) : Fails allows (allTruthValues function args) := by
  refine (Fails.mapM fun value _ => fails_truthValues types function value).before fun values => ?_
  dsimp only
  split
  next => exact .error (types _)
  next => exact .ok _

end Aggregate

namespace Rounding

theorem fails_roundTo (x : Float) (digits : Int) :
    Fails Strict.round.Raises (roundTo x digits) := by
  unfold roundTo
  dsimp only
  generalize (if 0 ≤ digits then _ else _ : Float) = scaled
  split
  next => exact .ok _
  next => exact Value.fails_finite (fun _ => by simp [Strict.Raises]) _

theorem fails_round (given : 0 < args.length) : Fails Strict.round.Raises (round args) := by
  refine (fails_argument given _).before fun value =>
    (value.fails_toNumber (Strict.raises_type _)).before fun x => ?_
  split
  next digits _ =>
    exact (digits.fails_toInteger (Strict.raises_type _)).before fun _ => fails_roundTo x _
  next => exact fails_roundTo x 0

theorem fails_mod (given : 1 < args.length) : Fails Strict.mod.Raises (mod args) := by
  refine (fails_argument (Nat.lt_of_succ_lt given) _).before fun value =>
    (value.fails_toNumber (Strict.raises_type _)).before fun x => ?_
  refine (fails_argument given _).before fun value =>
    (value.fails_toNumber (Strict.raises_type _)).before fun divisor => ?_
  split
  next => exact .error (by simp [Strict.Raises])
  next => exact Value.fails_finite (fun _ => by simp [Strict.Raises]) _

end Rounding

namespace Excerpt

variable (types : ∀ cause, allows (.type cause))
include types

theorem fails_textArgument (wellFormed : ∀ value ∈ args, value.WellFormed)
    (given : 0 < args.length) (function : Strict) :
    Fails allows (textArgument function args) :=
  (fails_argument given function).bind (wellFormed_argument wellFormed function 0)
    fun _ formed => (formed.fails_toText types).before fun _ => .ok _

theorem fails_countArgument (function : Strict) (args : List Value) (index : Nat) :
    Fails allows (countArgument function args index) := by
  unfold countArgument
  split
  next => exact .ok _
  next value _ =>
    refine (value.fails_toInteger types).before fun n => ?_
    split
    next => exact .error (types _)
    next => exact .ok _

omit types in
theorem fails_mid (wellFormed : ∀ value ∈ args, value.WellFormed) (given : 2 < args.length) :
    Fails Strict.mid.Raises (mid args) := by
  refine (fails_textArgument (Strict.raises_type _) wellFormed (by omega) .mid).before fun s => ?_
  refine (fails_argument (by omega) _).before fun value =>
    (value.fails_toInteger (Strict.raises_type _)).before fun start => ?_
  split
  next => exact .error rfl
  next => exact (fails_countArgument (Strict.raises_type _) .mid args 2).before fun _ => .ok _

end Excerpt

namespace Lookup

theorem fails_tableArgument (types : ∀ cause, allows (.type cause)) (given : 1 < args.length)
    (function : Strict) : Fails allows (tableArgument function args) := by
  refine (fails_argument given function).before fun value => ?_
  split
  next => exact .ok _
  next => exact .error (types _)

theorem fails_approximateArgument (types : ∀ cause, allows (.type cause)) (args : List Value) :
    Fails allows (approximateArgument args) := by
  unfold approximateArgument
  split
  next flag _ => exact flag.fails_toBool types
  next => exact .ok _

theorem mem_functions (direction : Direction) :
    direction.function ∈ [Strict.vlookup, .hlookup] := by
  cases direction <;> simp [Direction.function]

theorem fails_lineAt (direction : Direction) (index : Int) (size : Nat) :
    Fails direction.function.Raises (lineAt direction.function index size) := by
  unfold lineAt
  split
  next => exact .error trivial
  next =>
    split
    next => exact .error ⟨rfl, mem_functions direction⟩
    next => exact .ok _

theorem fails_lookup (direction : Direction) (given : 2 < args.length) :
    Fails direction.function.Raises (lookup direction args) := by
  have types := direction.function.raises_type
  refine (fails_argument (by omega) _).before fun value => ?_
  refine (value.fails_scalar types).before fun v => ?_
  refine (fails_tableArgument types (by omega) _).before fun rows => ?_
  refine (fails_argument given _).before fun value =>
    (value.fails_toInteger types).before fun index => ?_
  refine (fails_approximateArgument types args).before fun approximate => ?_
  refine (fails_lineAt direction index _).before fun line => ?_
  split
  next => exact .ok _
  next => exact .error ⟨rfl, mem_functions direction⟩

end Lookup

theorem fails_apply {f : Strict} (wellFormed : ∀ value ∈ args, value.WellFormed)
    (admitted : f.arity.Admits args.length) : Fails f.Raises (f.apply args) := by
  have given := admitted.1
  cases f with
  | sum => exact Aggregate.fails_sum args
  | abs =>
      exact (fails_argument given _).before fun value =>
        (value.fails_toNumber (Strict.raises_type _)).before fun _ => .ok _
  | round => exact Rounding.fails_round given
  | mod => exact Rounding.fails_mod given
  | average => exact Aggregate.fails_average args
  | count | counta => exact .ok _
  | max | min => exact Aggregate.fails_reduce _ args
  | and | or =>
      exact (Aggregate.fails_allTruthValues (Strict.raises_type _) _ args).before fun _ => .ok _
  | not =>
      exact (fails_argument given _).before fun value =>
        (value.fails_toBool (Strict.raises_type _)).before fun _ => .ok _
  | vlookup => exact Lookup.fails_lookup .down given
  | hlookup => exact Lookup.fails_lookup .across given
  | concatenate => exact Aggregate.fails_concatenate wellFormed
  | left | right =>
      exact (Excerpt.fails_textArgument (Strict.raises_type _) wellFormed given _).before fun _ =>
        (Excerpt.fails_countArgument (Strict.raises_type _) _ args 1).before fun _ => .ok _
  | mid => exact Excerpt.fails_mid wellFormed given
  | len | upper | lower | trim =>
      exact (Excerpt.fails_textArgument (Strict.raises_type _) wellFormed given _).before
        fun _ => .ok _

end Functions

/-- The errors that an operator ends with. -/
def Formula.BinaryOp.Raises (op : BinaryOp) : FormulaError → Prop
  | .type _ => True
  | .numeric _ => op ∈ [.add, .subtract, .multiply, .divide, .power]
  | .divisionByZero => op ∈ [.divide, .power]
  | _ => False

theorem fails_binary (op : BinaryOp) {a b : Value} (aFormed : a.WellFormed)
    (bFormed : b.WellFormed) : Fails op.Raises (op.apply a b) := by
  have types (cause : TypeFault) : op.Raises (.type cause) := trivial
  cases op with
  | add | subtract | multiply =>
      exact (a.fails_toNumber types).before fun _ => (b.fails_toNumber types).before fun _ =>
        Value.fails_finite (fun _ => by simp [BinaryOp.Raises]) _
  | divide | power =>
      refine (a.fails_toNumber types).before fun _ => (b.fails_toNumber types).before fun _ => ?_
      split
      next => exact .error (by simp [BinaryOp.Raises])
      next => exact Value.fails_finite (fun _ => by simp [BinaryOp.Raises]) _
  | concat =>
      exact (aFormed.fails_toText types).before fun _ => (bFormed.fails_toText types).before
        fun _ => .ok _
  | equal | notEqual | lessThan | lessEqual | greaterThan | greaterEqual => exact .ok _

theorem fails_unary {allows : FormulaError → Prop} (types : ∀ cause, allows (.type cause))
    (op : UnaryOp) (value : Value) : Fails allows (op.apply value) := by
  refine (value.fails_toNumber types).before fun _ => ?_
  cases op <;> exact .ok _

end Spreadsheet
