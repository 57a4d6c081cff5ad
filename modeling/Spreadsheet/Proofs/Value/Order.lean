import Spreadsheet.Proofs.Binary.Order
import Spreadsheet.Value.Convert
import Spreadsheet.Value.Order

/-! The order of values is total, and transitive where nothing has to stand for something else. -/

namespace Spreadsheet.Value

open Spreadsheet.Text

def isNaN : Value → Bool
  | .number n => n.isNaN
  | _ => false

theorem scalar_eq {value : Value} (scalar : value.isArray = false) : value.scalar = .ok value := by
  unfold Value.scalar
  rw [if_neg (ne_true_of_eq_false scalar)]

/-- A value with a place of its own in the order: numbers that are such, text and truth values. -/
structure Sortable (value : Value) : Prop where
  scalar : value.isArray = false
  filled : value.isEmpty = false
  isNumber : value.isNaN = false

theorem Sortable.cases {value : Value} (sortable : value.Sortable) :
    (∃ n, value = .number n ∧ n.isNaN = false) ∨ (∃ s, value = .text s) ∨
      ∃ b, value = .boolean b := by
  obtain ⟨scalar, filled, isNumber⟩ := sortable
  cases value with
  | number n => exact .inl ⟨n, rfl, isNumber⟩
  | text s => exact .inr (.inl ⟨s, rfl⟩)
  | boolean b => exact .inr (.inr ⟨b, rfl⟩)
  | array rows => cases scalar
  | empty => cases filled

theorem compareNumbers_swap (a b : Float) : compareNumbers b a = (compareNumbers a b).swap := by
  unfold compareNumbers
  by_cases below : a < b
  · have notAbove : ¬ b < a := fun above =>
      lt_asymm (Binary.lt_iff_extended.mp below).2.2 (Binary.lt_iff_extended.mp above).2.2
    rw [if_neg notAbove, if_pos below, if_pos below]
    rfl
  · rw [if_neg below, if_neg below]
    split <;> rfl

theorem compareNumbers_eq {a b : Float} (isNumber : a.isNaN = false) (isNumber' : b.isNaN = false) :
    compareNumbers a b = compare (Binary.extended a) (Binary.extended b) := by
  have order (x z : Float) (ofX : x.isNaN = false) (ofZ : z.isNaN = false) :
      x < z ↔ Binary.extended x < Binary.extended z := by
    rw [Binary.lt_iff_extended, and_iff_right ofX, and_iff_right ofZ]
  unfold compareNumbers
  simp only [order a b isNumber isNumber', order b a isNumber' isNumber]
  split
  next below => exact (compare_lt_iff_lt.mpr below).symm
  next notBelow =>
    split
    next above => exact (compare_gt_iff_gt.mpr above).symm
    next notAbove =>
      have same := le_antisymm (not_lt.mp notAbove) (not_lt.mp notBelow)
      exact (compare_eq_iff_eq.mpr same).symm

theorem compareNumbers_eq_iff {a b : Float} (isNumber : a.isNaN = false)
    (isNumber' : b.isNaN = false) : compareNumbers a b = .eq ↔ (a == b) = true := by
  rw [compareNumbers_eq isNumber isNumber', compare_eq_iff_eq, Binary.beq_iff_extended,
    and_iff_right isNumber, and_iff_right isNumber']

theorem compareTexts_eq_iff {s t : String} :
    compareTexts s t = .eq ↔ (lower s.toList == lower t.toList) = true :=
  Std.compare_eq_iff_eq.trans beq_iff_eq.symm

theorem isLE_compareNumbers {a b : Float} (isNumber : a.isNaN = false)
    (isNumber' : b.isNaN = false) :
    (compareNumbers a b).isLE = true ↔ Binary.extended a ≤ Binary.extended b := by
  rw [compareNumbers_eq isNumber isNumber']
  exact Ordering.isLE_iff_ne_gt.trans compare_le_iff_le

/-- What a value stands for beside another. -/
def beside (a b : Value) : Value :=
  match a with
  | .empty => emptyBeside b
  | _ => a

theorem compare_eq_filled (a b : Value) :
    Value.compare a b = compareFilled (a.beside b) (b.beside a) := by
  cases a <;> cases b <;> rfl

theorem compareFilled_swap (a b : Value) : compareFilled b a = (compareFilled a b).swap := by
  cases a with
  | number m =>
      cases b with
      | number n => exact compareNumbers_swap m n
      | text | boolean | array | empty => rfl
  | text s =>
      cases b with
      | text t => exact Std.OrientedOrd.eq_swap
      | number | boolean | array | empty => rfl
  | boolean p =>
      cases b with
      | boolean q => exact Std.OrientedOrd.eq_swap
      | number | text | array | empty => rfl
  | array | empty => cases b <;> rfl

/-- Turned round a comparison has the reverse result. -/
theorem compare_swap (a b : Value) : Value.compare b a = (Value.compare a b).swap := by
  rw [compare_eq_filled, compare_eq_filled, compareFilled_swap]

theorem compare_self (a : Value) : Value.compare a a = .eq := by
  have same := compare_swap a a
  cases result : Value.compare a a with
  | eq => rfl
  | lt | gt => rw [result] at same; cases same

theorem isLE_compare_total (a b : Value) :
    (Value.compare a b).isLE = true ∨ (Value.compare b a).isLE = true := by
  rw [compare_swap a b]
  cases Value.compare a b with
  | lt | eq => exact .inl rfl
  | gt => exact .inr rfl

theorem beside_of_filled {a : Value} (filled : a.isEmpty = false) (b : Value) : a.beside b = a := by
  cases a with
  | empty => cases filled
  | number | text | boolean | array => rfl

theorem compareFilled_of_rank_ne {a b : Value} (differs : a.rank ≠ b.rank) :
    compareFilled a b = compare a.rank b.rank := by
  cases a <;> cases b <;> first | rfl | exact absurd rfl differs

/-- Values of two kinds stand in the order of the kinds. -/
theorem compare_of_rank_lt {a b : Value} (filled : a.isEmpty = false) (below : a.rank < b.rank) :
    Value.compare a b = .lt := by
  have filled' : b.isEmpty = false := by
    cases b with
    | empty => exact absurd below (Nat.not_lt_zero _)
    | number | text | boolean | array => rfl
  rw [compare_eq_filled, beside_of_filled filled, beside_of_filled filled',
    compareFilled_of_rank_ne below.ne]
  exact Nat.compare_eq_lt.mpr below

theorem Sortable.rank_le {a b : Value} (sortable : b.Sortable)
    (le : (Value.compare a b).isLE = true) : a.rank ≤ b.rank := by
  by_contra above
  rw [compare_swap b a, compare_of_rank_lt sortable.filled (not_le.mp above)] at le
  cases le

/-- Where every value has its own place, an order of two and of two is an order of three. -/
theorem isLE_compare_trans {a b c : Value} (sortableA : a.Sortable) (sortableB : b.Sortable)
    (sortableC : c.Sortable) (first : (Value.compare a b).isLE = true)
    (second : (Value.compare b c).isLE = true) : (Value.compare a c).isLE = true := by
  have low := sortableB.rank_le first
  have high := sortableC.rank_le second
  by_cases below : a.rank < c.rank
  · rw [compare_of_rank_lt sortableA.filled below]
    rfl
  -- All three are of one kind now.
  rcases sortableA.cases with ⟨l, rfl, ofL⟩ | ⟨s, rfl⟩ | ⟨p, rfl⟩ <;>
    rcases sortableB.cases with ⟨m, rfl, ofM⟩ | ⟨t, rfl⟩ | ⟨q, rfl⟩ <;>
    rcases sortableC.cases with ⟨n, rfl, ofN⟩ | ⟨u, rfl⟩ | ⟨r, rfl⟩ <;>
    simp only [rank] at low high below <;> try omega
  · exact (isLE_compareNumbers ofL ofN).mpr
      (((isLE_compareNumbers ofL ofM).mp first).trans ((isLE_compareNumbers ofM ofN).mp second))
  · exact Std.TransOrd.isLE_trans (α := List Char) first second
  · exact Std.TransOrd.isLE_trans (α := Bool) first second

/-- Beside an empty value, which is the number 0 here and an empty text there, it is not so. -/
example : (Value.compare (.text "") .empty).isLE = true ∧
    (Value.compare .empty (.number 0)).isLE = true ∧
      Value.compare (.text "") (.number 0) = .gt := by decide

theorem compare_lt_trans {a b c : Value} (sortableA : a.Sortable) (sortableB : b.Sortable)
    (sortableC : c.Sortable) (first : Value.compare a b = .lt)
    (second : Value.compare b c = .lt) : Value.compare a c = .lt := by
  by_contra notLess
  -- Then `c` would come before `a`, and so before `b`.
  have back : (Value.compare c a).isLE = true := by
    rw [compare_swap a c]
    revert notLess
    cases Value.compare a c with
    | lt => exact fun notLess => absurd rfl notLess
    | eq | gt => exact fun _ => rfl
  have before := isLE_compare_trans sortableC sortableA sortableB back (by rw [first]; rfl)
  rw [compare_swap b c, second] at before
  cases before

/-- Values each in order with the next one are in order all of them. -/
theorem pairwise_of_isChain {related : Value → Value → Prop}
    (trans : ∀ a b c : Value, a.Sortable → b.Sortable → c.Sortable →
      related a b → related b c → related a c)
    {values : List Value} (sortable : ∀ value ∈ values, value.Sortable)
    (chain : values.IsChain related) : values.Pairwise related := by
  let both (a b : Value) : Prop := a.Sortable ∧ b.Sortable ∧ related a b
  have : IsTrans Value both :=
    ⟨fun a b c first second => ⟨first.1, second.2.1,
      trans a b c first.1 first.2.1 second.2.1 first.2.2 second.2.2⟩⟩
  have among : values.IsChain both := chain.imp_of_mem_imp
    fun a b listedA listedB holds => ⟨sortable a listedA, sortable b listedB, holds⟩
  exact (List.isChain_iff_pairwise.mp among).imp fun holds => holds.2.2

end Spreadsheet.Value
