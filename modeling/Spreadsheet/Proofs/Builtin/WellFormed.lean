import Spreadsheet.Proofs.Value.Count
import Spreadsheet.Proofs.Value.WellFormed

namespace Spreadsheet

open Value (WellFormed IsEntry IsTable)

variable {args : List Value}

theorem wellFormed_argument (wellFormed : ∀ value ∈ args, value.WellFormed) (function : Strict)
    (index : Nat) : Gives WellFormed (argument function args index) := by
  unfold argument
  split
  next value found => exact .ok (wellFormed value (List.mem_of_getElem? found))
  next => exact .error _

theorem Value.WellFormed.entries {value : Value} (wellFormed : value.WellFormed) :
    ∀ entry ∈ value.entries, entry.WellFormed := by
  intro entry member
  cases value with
  | array rows =>
      obtain ⟨row, listed, inside⟩ := List.mem_flatten.mp member
      exact (IsTable.entries wellFormed row listed entry inside).wellFormed
  | number | text | boolean | empty =>
      rw [List.mem_singleton.mp member]
      exact wellFormed

/-- Truth values and text stand for finite numbers in any case. -/
theorem isFinite_of_mem_numericEntries
    (finite : ∀ n, Value.number n ∈ entriesOf args → n.isFinite = true) :
    ∀ n ∈ numericEntries args, n.isFinite = true := by
  intro n member
  obtain ⟨entry, inside, reads⟩ := List.mem_filterMap.mp member
  cases entry with
  | number m => exact Option.some.inj reads ▸ finite m inside
  | text s => exact Value.isFinite_readNumber? reads
  | boolean b => exact Option.some.inj reads ▸ Value.isFinite_ofBool b
  | array | empty => cases reads

theorem isFinite_numericEntries (wellFormed : ∀ value ∈ args, value.WellFormed) :
    ∀ n ∈ numericEntries args, n.isFinite = true := by
  refine isFinite_of_mem_numericEntries fun n inside => ?_
  obtain ⟨value, listed, among⟩ := List.mem_flatMap.mp inside
  exact (wellFormed value listed).entries _ among

namespace Aggregate

theorem wellFormed_average (args : List Value) : Gives WellFormed (average args) := by
  unfold average
  dsimp only
  split
  next => exact .error _
  next => exact Value.gives_finite _

/-- A choice between two numbers stays among the numbers it started from. -/
theorem isFinite_foldl {combine : Float → Float → Float}
    (chooses : ∀ a b, combine a b = a ∨ combine a b = b) (others : List Float) {first : Float}
    (start : first.isFinite = true) (rest : ∀ n ∈ others, n.isFinite = true) :
    (others.foldl combine first).isFinite = true := by
  induction others generalizing first with
  | nil => exact start
  | cons next others continues =>
      refine continues ?_ fun n member => rest n (List.mem_cons_of_mem _ member)
      rcases chooses first next with same | same
      · rw [same]
        exact start
      · rw [same]
        exact rest next List.mem_cons_self

theorem wellFormed_reduce {combine : Float → Float → Float}
    (chooses : ∀ a b, combine a b = a ∨ combine a b = b)
    (wellFormed : ∀ value ∈ args, value.WellFormed) :
    Gives WellFormed (reduce combine args) := by
  have numbers := isFinite_numericEntries wellFormed
  unfold reduce
  split
  next => exact .ok trivial
  next first others found =>
    rw [found] at numbers
    exact .ok (isFinite_foldl chooses others (numbers first List.mem_cons_self)
      fun n member => numbers n (List.mem_cons_of_mem _ member))

theorem greater_chooses (a b : Float) : greater a b = a ∨ greater a b = b := by
  unfold greater
  split
  next => exact .inr rfl
  next => exact .inl rfl

theorem less_chooses (a b : Float) : less a b = a ∨ less a b = b := by
  unfold less
  split
  next => exact .inr rfl
  next => exact .inl rfl

end Aggregate

namespace Rounding

theorem wellFormed_abs (wellFormed : ∀ value ∈ args, value.WellFormed) :
    Gives WellFormed (abs args) :=
  (wellFormed_argument wellFormed .abs 0).bind fun _ formed =>
    formed.toNumber.bind fun _ isFinite => .ok (Binary.isFinite_abs isFinite)

theorem wellFormed_roundTo {x : Float} (isFinite : x.isFinite = true) (digits : Int) :
    Gives WellFormed (roundTo x digits) := by
  unfold roundTo
  dsimp only
  generalize (if 0 ≤ digits then _ else _ : Float) = scaled
  split
  next => exact .ok isFinite
  next => exact Value.gives_finite _

theorem wellFormed_round (wellFormed : ∀ value ∈ args, value.WellFormed) :
    Gives WellFormed (round args) := by
  refine (wellFormed_argument wellFormed .round 0).bind fun _ formed =>
    formed.toNumber.bind fun _ isFinite => ?_
  split
  next => exact .after _ fun _ => wellFormed_roundTo isFinite _
  next => exact wellFormed_roundTo isFinite 0

theorem wellFormed_mod (args : List Value) : Gives WellFormed (mod args) := by
  refine .after _ fun _ => .after _ fun _ => .after _ fun _ => .after _ fun _ => ?_
  split
  next => exact .error _
  next => exact Value.gives_finite _

end Rounding

namespace Lookup

theorem wellFormed_entry {row : List Value} (entries : ∀ entry ∈ row, entry.IsEntry)
    (index : Nat) : (entry row index).WellFormed := by
  unfold entry
  cases found : row[index]? with
  | none => trivial
  | some value => exact (entries value (List.mem_of_getElem? found)).wellFormed

theorem wellFormed_result {rows : List (List Value)} (table : IsTable rows)
    (direction : Direction) (key line : Nat) : (result direction rows key line).WellFormed := by
  have rowEntries (index : Nat) : ∀ entry ∈ rows[index]?.getD [], entry.IsEntry := by
    cases found : rows[index]? with
    | none => exact fun _ member => nomatch member
    | some row => exact table.entries row (List.mem_of_getElem? found)
  cases direction with
  | down => exact wellFormed_entry (rowEntries key) line
  | across => exact wellFormed_entry (rowEntries line) key

theorem isTable_tableArgument (wellFormed : ∀ value ∈ args, value.WellFormed)
    (function : Strict) : Gives IsTable (tableArgument function args) := by
  refine (wellFormed_argument wellFormed function 1).bind fun value formed => ?_
  split
  next => exact .ok formed
  next => exact .error _

theorem wellFormed_lookup (wellFormed : ∀ value ∈ args, value.WellFormed)
    (direction : Direction) : Gives WellFormed (lookup direction args) := by
  refine .after _ fun _ => .after _ fun value => ?_
  refine (isTable_tableArgument wellFormed direction.function).bind fun rows table => ?_
  refine .after _ fun _ => .after _ fun _ => .after _ fun approximate => .after _ fun line => ?_
  split
  next key _ => exact .ok (wellFormed_result table direction key line)
  next => exact .error _

end Lookup

theorem wellFormed_apply (f : Strict) (wellFormed : ∀ value ∈ args, value.WellFormed) :
    Gives WellFormed (f.apply args) := by
  cases f with
  | sum => exact Value.gives_finite _
  | abs => exact Rounding.wellFormed_abs wellFormed
  | round => exact Rounding.wellFormed_round wellFormed
  | mod => exact Rounding.wellFormed_mod args
  | average => exact Aggregate.wellFormed_average args
  | count | counta => exact .ok (Value.isFinite_ofCount _)
  | max => exact Aggregate.wellFormed_reduce Aggregate.greater_chooses wellFormed
  | min => exact Aggregate.wellFormed_reduce Aggregate.less_chooses wellFormed
  | and | or | concatenate | upper | lower | trim => exact .after _ fun _ => .ok trivial
  | not => exact .after _ fun _ => .after _ fun _ => .ok trivial
  | vlookup => exact Lookup.wellFormed_lookup wellFormed .down
  | hlookup => exact Lookup.wellFormed_lookup wellFormed .across
  | left | right => exact .after _ fun _ => .after _ fun _ => .ok trivial
  | mid =>
      refine .after _ fun _ => .after _ fun _ => .after _ fun start => ?_
      split
      next => exact .error _
      next => exact .after _ fun _ => .ok trivial
  | len => exact .after _ fun _ => .ok (Value.isFinite_ofCount _)

theorem wellFormed_binary (op : Formula.BinaryOp) (a b : Value) :
    Gives WellFormed (op.apply a b) := by
  cases op with
  | add | subtract | multiply => exact .after _ fun _ => .after _ fun _ => Value.gives_finite _
  | divide | power =>
      refine .after _ fun _ => .after _ fun _ => ?_
      split
      next => exact .error _
      next => exact Value.gives_finite _
  | concat => exact .after _ fun _ => .after _ fun _ => .ok trivial
  | equal | notEqual | lessThan | lessEqual | greaterThan | greaterEqual => exact .ok trivial

theorem wellFormed_unary (op : Formula.UnaryOp) {value : Value}
    (wellFormed : value.WellFormed) : Gives WellFormed (op.apply value) := by
  refine wellFormed.toNumber.bind fun n isFinite => ?_
  cases op with
  | negate => exact .ok (Binary.isFinite_neg isFinite)
  | percent => exact .ok (Binary.isFinite_percent isFinite)

end Spreadsheet
