import Spreadsheet.Proofs.Builtin.Order

namespace Spreadsheet

open Spreadsheet.Binary

namespace Aggregate

variable {args : List Value}

/-- An entry that is a number is filled. -/
theorem length_numericEntries_le :
    (numericEntries args).length ≤ ((entriesOf args).filter (!·.isEmpty)).length := by
  unfold numericEntries
  rw [← filterMap_filled rfl]
  exact List.length_filterMap_le ..

/-- What the two functions that count come to: numbers that belong to the lengths, the number of
the lesser length being no greater. -/
structure Counts (args : List Value) (numeric filled : Float) : Prop where
  count : Strict.count.apply args = .ok (.number numeric)
  counta : Strict.counta.apply args = .ok (.number filled)
  numeric_eq : numeric = Value.ofCount (numericEntries args).length
  exact : (numericEntries args).length ≤ 2 ^ 53 → value numeric = (numericEntries args).length
  le : numeric ≤ filled

theorem counts (args : List Value) : Counts args (Value.ofCount (numericEntries args).length)
    (Value.ofCount ((entriesOf args).filter (!·.isEmpty)).length) where
  count := rfl
  counta := rfl
  numeric_eq := rfl
  exact := Value.value_ofCount
  le := Value.ofCount_le_ofCount length_numericEntries_le

theorem reduce_eq_empty_iff {combine : Float → Float → Float} :
    reduce combine args = .ok .empty ↔ numericEntries args = [] := by
  unfold reduce
  split
  next none => exact iff_of_true rfl none
  next first others some =>
    rw [some]
    exact iff_of_false nofun nofun

/-- The number chosen from some is one of them, and none of them exceeds it. -/
theorem Chooses.reduce_eq {combine : Float → Float → Float} {key : Float → ℚ}
    (chooses : Chooses combine key) (finite : ∀ n ∈ numericEntries args, n.isFinite = true)
    (some : numericEntries args ≠ []) :
    ∃ best ∈ numericEntries args, reduce combine args = .ok (.number best) ∧
      ∀ n ∈ numericEntries args, key n ≤ key best := by
  unfold reduce
  generalize numericEntries args = numbers at *
  cases numbers with
  | nil => exact absurd rfl some
  | cons first others =>
      obtain ⟨member, bounds⟩ := chooses.foldl_bounds others finite
      exact ⟨_, member, rfl, bounds⟩

/-- What the extremes of some numbers are: two of them, with all of them in between. -/
structure Extremes (args : List Value) (least greatest : Float) : Prop where
  min : Strict.min.apply args = .ok (.number least)
  max : Strict.max.apply args = .ok (.number greatest)
  least_mem : least ∈ numericEntries args
  greatest_mem : greatest ∈ numericEntries args
  between : ∀ n ∈ numericEntries args, least ≤ n ∧ n ≤ greatest

theorem exists_extremes (finite : ∀ n ∈ numericEntries args, n.isFinite = true)
    (some : numericEntries args ≠ []) : ∃ least greatest, Extremes args least greatest := by
  obtain ⟨least, leastMem, min, below⟩ := chooses_less.reduce_eq finite some
  obtain ⟨greatest, greatestMem, max, above⟩ := chooses_greater.reduce_eq finite some
  refine ⟨least, greatest, min, max, leastMem, greatestMem, fun n member => ⟨?_, ?_⟩⟩
  · rw [le_iff (finite least leastMem) (finite n member)]
    exact neg_le_neg_iff.mp (below n member)
  · rw [le_iff (finite n member) (finite greatest greatestMem)]
    exact above n member

/-- Counts and extremes of the numbers among the entries agree with each other. They are the same
for the same entries, in whatever order and in whatever arrays, up to the sign of a zero. -/
theorem measures_coherent (finite : ∀ n, Value.number n ∈ entriesOf args → n.isFinite = true) :
    (∃ numeric filled, Counts args numeric filled) ∧
    (Strict.max.apply args = .ok .empty ↔ numericEntries args = []) ∧
    (Strict.min.apply args = .ok .empty ↔ numericEntries args = []) ∧
    (numericEntries args ≠ [] → ∃ least greatest, Extremes args least greatest) ∧
    ∀ others, (entriesOf args).Perm (entriesOf others) → ∀ f ∈ Strict.measures,
      (f.apply args).map Value.unsignedZero = (f.apply others).map Value.unsignedZero := by
  have numbers := isFinite_of_mem_numericEntries finite
  refine ⟨⟨_, _, counts args⟩, reduce_eq_empty_iff, reduce_eq_empty_iff,
    exists_extremes numbers, fun others perm f measure => ?_⟩
  exact measure_perm measure numbers (perm.filter _)

/-- Entries of a table and two scalars, and the same in reverse, grouped another way. -/
theorem measures_coherent_regrouped :
    let args : List Value := [.array [[.number 3, .text "2.5"], [.boolean true, .empty]],
      .text "x", .number (-0.0)]
    let others : List Value := [.number (-0.0), .array [[.text "x"], [.empty]], .boolean true,
      .array [[.text "2.5", .number 3]]]
    (∀ n, Value.number n ∈ entriesOf args → n.isFinite = true) ∧ numericEntries args ≠ [] ∧
      (entriesOf args).Perm (entriesOf others) ∧
      (∃ least greatest, Extremes args least greatest) ∧
      (Strict.min.apply args).map Value.unsignedZero =
        (Strict.min.apply others).map Value.unsignedZero := by
  intro args others
  have finite : ∀ n, Value.number n ∈ entriesOf args → n.isFinite = true := by
    intro n inside
    simp only [args, entriesOf, Value.entries, List.flatMap_cons, List.flatMap_nil,
      List.flatten_cons, List.flatten_nil, List.mem_append, List.mem_cons, List.not_mem_nil,
      Value.number.injEq, reduceCtorEq, or_false, false_or] at inside
    rcases inside with rfl | rfl <;> decide
  have some : numericEntries args ≠ [] := List.cons_ne_nil _ _
  have perm : (entriesOf args).Perm (entriesOf others) := (List.reverse_perm (entriesOf args)).symm
  obtain ⟨-, -, -, extremes, same⟩ := measures_coherent finite
  exact ⟨finite, some, perm, extremes some, same others perm .min (by decide)⟩

end Aggregate

end Spreadsheet
