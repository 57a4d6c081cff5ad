import Spreadsheet.Proofs.Binary.Arithmetic
import Spreadsheet.Proofs.Builtin.Aggregate
import Spreadsheet.Proofs.Builtin.WellFormed
import Spreadsheet.Proofs.Grid.Stored

namespace Spreadsheet

/-- The functions of all entries that the order of these makes no difference to. -/
def Strict.unordered : List Strict := [.count, .counta, .max, .min, .and, .or]

/-- Those of them that have a value for all arguments. -/
def Strict.measures : List Strict := [.count, .counta, .max, .min]

namespace Aggregate

section Extremes

open Binary

/-- The choices between two numbers that lead to one which none of them exceeds, when numbers are
compared by a key that only depends on their values and tells them apart. -/
structure Chooses (combine : Float → Float → Float) (key : Float → ℚ) : Prop where
  either : ∀ a b, combine a b = a ∨ combine a b = b
  faithful : ∀ a b, key a = key b ↔ value a = value b
  left_le : ∀ a b, a.isFinite = true → b.isFinite = true → key a ≤ key (combine a b)
  right_le : ∀ a b, a.isFinite = true → b.isFinite = true → key b ≤ key (combine a b)

theorem chooses_greater : Chooses greater value := by
  have bounds (a b : Float) (finite : a.isFinite = true) (finite' : b.isFinite = true) :
      value a ≤ value (greater a b) ∧ value b ≤ value (greater a b) := by
    unfold greater
    rw [isNaN_of_isFinite finite]
    split
    next above =>
      have less : a < b := by simpa using above
      exact ⟨((lt_iff finite finite').mp less).le, le_refl _⟩
    next below =>
      have notLess : ¬ a < b := by simpa using below
      exact ⟨le_refl _, not_lt.mp (mt (lt_iff finite finite').mpr notLess)⟩
  exact ⟨greater_chooses, fun _ _ => Iff.rfl,
    fun a b finite finite' => (bounds a b finite finite').1,
    fun a b finite finite' => (bounds a b finite finite').2⟩

theorem chooses_less : Chooses less (fun n => -value n) := by
  have bounds (a b : Float) (finite : a.isFinite = true) (finite' : b.isFinite = true) :
      value (less a b) ≤ value a ∧ value (less a b) ≤ value b := by
    unfold less
    rw [isNaN_of_isFinite finite]
    split
    next above =>
      have less : b < a := by simpa using above
      exact ⟨((lt_iff finite' finite).mp less).le, le_refl _⟩
    next below =>
      have notLess : ¬ b < a := by simpa using below
      exact ⟨le_refl _, not_lt.mp (mt (lt_iff finite' finite).mpr notLess)⟩
  exact ⟨less_chooses, fun _ _ => neg_inj,
    fun a b finite finite' => neg_le_neg (bounds a b finite finite').1,
    fun a b finite finite' => neg_le_neg (bounds a b finite finite').2⟩

namespace Chooses

variable {combine : Float → Float → Float} {key : Float → ℚ} (chooses : Chooses combine key)

include chooses

/-- What all the choices lead to is one of the numbers, and none of them exceeds it. -/
theorem foldl_bounds (others : List Float) {first : Float}
    (finite : ∀ n ∈ first :: others, n.isFinite = true) :
    others.foldl combine first ∈ first :: others ∧
      ∀ n ∈ first :: others, key n ≤ key (others.foldl combine first) := by
  induction others generalizing first with
  | nil => simp
  | cons second others ih =>
      have finiteFirst := finite first (by simp)
      have finiteSecond := finite second (by simp)
      have among : combine first second ∈ [first, second] := by
        rcases chooses.either first second with same | same <;> simp [same]
      have finiteChoices : ∀ n ∈ combine first second :: others, n.isFinite = true := by
        intro n listed
        rcases List.mem_cons.mp listed with rfl | later
        · exact finite _ (List.mem_append_left others among)
        · exact finite n (by simp [later])
      obtain ⟨member, bounds⟩ := ih finiteChoices
      have best := bounds _ List.mem_cons_self
      refine ⟨?_, ?_⟩
      · rw [List.foldl_cons]
        rcases List.mem_cons.mp member with same | later
        · rw [same]
          exact List.mem_append_left others among
        · simp [later]
      · intro n listed
        rw [List.foldl_cons]
        simp only [List.mem_cons] at listed
        rcases listed with rfl | rfl | later
        · exact (chooses.left_le n second finiteFirst finiteSecond).trans best
        · exact (chooses.right_le first n finiteFirst finiteSecond).trans best
        · exact bounds n (List.mem_cons_of_mem _ later)

/-- The order of the numbers makes no difference to the value of what is chosen. -/
theorem foldl_perm {first first' : Float} {others others' : List Float}
    (finite : ∀ n ∈ first :: others, n.isFinite = true)
    (perm : (first :: others).Perm (first' :: others')) :
    value (others.foldl combine first) = value (others'.foldl combine first') := by
  have finite' : ∀ n ∈ first' :: others', n.isFinite = true :=
    fun n member => finite n (perm.mem_iff.mpr member)
  obtain ⟨member, bounds⟩ := chooses.foldl_bounds others finite
  obtain ⟨member', bounds'⟩ := chooses.foldl_bounds others' finite'
  rw [← chooses.faithful]
  exact le_antisymm (bounds' _ (perm.mem_iff.mp member)) (bounds _ (perm.mem_iff.mpr member'))

end Chooses

end Extremes

theorem reduce_perm {combine : Float → Float → Float} {key : Float → ℚ}
    (chooses : Chooses combine key) {args args' : List Value}
    (finite : ∀ n ∈ numericEntries args, n.isFinite = true)
    (perm : (numericEntries args).Perm (numericEntries args')) :
    (reduce combine args).map Value.unsignedZero =
      (reduce combine args').map Value.unsignedZero := by
  unfold reduce
  generalize numericEntries args = numbers at finite perm ⊢
  generalize numericEntries args' = numbers' at perm ⊢
  cases numbers with
  | nil => rw [perm.nil_eq]
  | cons first numbers =>
      cases numbers' with
      | nil => exact absurd perm.eq_nil (List.cons_ne_nil _ _)
      | cons first' numbers' =>
          have finite' : ∀ n ∈ first' :: numbers', n.isFinite = true :=
            fun n member => finite n (perm.mem_iff.mpr member)
          have chosen := finite _ (chooses.foldl_bounds numbers finite).1
          have chosen' := finite' _ (chooses.foldl_bounds numbers' finite').1
          exact congrArg (fun n => Except.ok (Value.number n))
            (Decimal.unsignedZero_eq_of_value_eq chosen chosen' (chooses.foldl_perm finite perm))

/-- Whatever arguments the filled entries stand in, and in whatever order, they have the same count
and the same extremes up to the sign of a zero. -/
theorem measure_perm {f : Strict} (measure : f ∈ Strict.measures) {args args' : List Value}
    (finite : ∀ n ∈ numericEntries args, n.isFinite = true)
    (perm : ((entriesOf args).filter (!·.isEmpty)).Perm ((entriesOf args').filter (!·.isEmpty))) :
    (f.apply args).map Value.unsignedZero = (f.apply args').map Value.unsignedZero := by
  have numbers : (numericEntries args).Perm (numericEntries args') := by
    have filled := perm.filterMap Value.numericEntry?
    rwa [filterMap_filled rfl, filterMap_filled rfl] at filled
  cases f with
  | count => simp only [Strict.apply, count, numbers.length_eq]
  | counta => simp only [Strict.apply, countFilled, perm.length_eq]
  | max => exact reduce_perm chooses_greater finite numbers
  | min => exact reduce_perm chooses_less finite numbers
  | sum | abs | round | mod | average | and | or | not | vlookup | hlookup | concatenate | left
  | right | mid | len | upper | lower | trim => exact absurd measure (by decide)

variable {tables others : List (List (List Value))}

/-- A connective of the truth values, if it depends on no order, has one result and one error. -/
theorem connective_perm (perm : (filledEntries tables).Perm (filledEntries others))
    (function : Strict) {combine : List Bool → Bool}
    (insensitive : ∀ {l l' : List Bool}, l.Perm l' → combine l = combine l') :
    (do return .boolean (combine (← allTruthValues function (tables.map .array))) :
      Except FormulaError Value) =
    do return .boolean (combine (← allTruthValues function (others.map .array))) := by
  have truths := perm.filterMap Value.truth?
  rw [allTruthValues_tables, allTruthValues_tables, truths.isEmpty_eq]
  split
  next => rfl
  next => exact congrArg (fun b => Except.ok (Value.boolean b)) (insensitive truths)

/-- Entries in another order have the same count, the same extremes up to the sign of a zero, and
the same conjunction and disjunction. -/
theorem apply_perm {f : Strict} (unordered : f ∈ Strict.unordered)
    (finite : ∀ n ∈ numericEntries (tables.map .array), n.isFinite = true)
    (perm : (filledEntries tables).Perm (filledEntries others)) :
    (f.apply (tables.map .array)).map Value.unsignedZero =
      (f.apply (others.map .array)).map Value.unsignedZero := by
  have filled : ((entriesOf (tables.map .array)).filter (!·.isEmpty)).Perm
      ((entriesOf (others.map .array)).filter (!·.isEmpty)) := by
    rw [entriesOf_tables, entriesOf_tables]
    exact perm
  cases f with
  | count | counta | max | min => exact measure_perm (by decide) finite filled
  | and => exact congrArg (Except.map Value.unsignedZero) (connective_perm perm .and (·.all_eq))
  | or => exact congrArg (Except.map Value.unsignedZero) (connective_perm perm .or (·.any_eq))
  | sum | abs | round | mod | average | not | vlookup | hlookup | concatenate | left | right | mid
  | len | upper | lower | trim => exact absurd unordered (by decide)

/-- Texts are joined in the order of reading. Column by column that is another one. -/
example :
    concatenate [.array [[.text "a", .text "b"], [.text "c", .text "d"]]] = .ok (.text "abcd") ∧
      concatenate [.array [[.text "a"], [.text "c"]], .array [[.text "b"], [.text "d"]]] =
        .ok (.text "acbd") := ⟨rfl, rfl⟩

end Aggregate

end Spreadsheet
