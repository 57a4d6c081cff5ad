import Spreadsheet.Proofs.Evaluation.Allowance
import Spreadsheet.Proofs.Evaluation.Failure

/-! The allowance of range cells decides only whether an evaluation gets through. -/

namespace Spreadsheet

open Spreadsheet.Formula

variable {α β : Type}

/-- Reads every range, and counts its cells without a limit. -/
def Grid.unlimited (grid : Grid) : Source Nat where
  cell := grid.typedCell
  range range := fun count => (.ok (grid.typedRange range), count + range.cellCount.toNat)

/-- The error for a range that is larger than what is left of the allowance. -/
def Refused (result : Except FormulaError α) : Prop :=
  ∃ range cells left, result = .error (.invalidReference (.rangeTooLarge range cells left))

/-- A meter that has counted so many cells, all of them allowed. -/
structure Meter.Counts (allowed : UInt64) (meter : Meter) (count : Nat) : Prop where
  limit : meter.allowed = allowed
  read : meter.read.toNat = count
  within : count ≤ allowed.toNat

namespace Meter.Counts

variable {allowed : UInt64} {meter : Meter} {count : Nat}

theorem fresh (allowed : UInt64) : Counts allowed (.fresh allowed) 0 := ⟨rfl, rfl, Nat.zero_le _⟩

theorem remaining_toNat (counts : Counts allowed meter count) :
    meter.remaining.toNat = allowed.toNat - count := by
  rw [Meter.remaining_toNat, counts.limit, counts.read]

theorem draw (counts : Counts allowed meter count) {cells : UInt64}
    (covered : count + cells.toNat ≤ allowed.toNat) :
    Counts allowed (meter.draw cells) (count + cells.toNat) := by
  have bound := allowed.toNat_lt
  refine ⟨counts.limit, ?_, covered⟩
  change (meter.read + cells).toNat = _
  rw [UInt64.toNat_add, counts.read, Nat.mod_eq_of_lt (by omega)]

end Meter.Counts

/-- A computation with a limit beside one without: as long as the count keeps within the limit they
end alike, and once it does not the first is refused. The count never goes back. -/
structure Threshold (allowed : UInt64) (limited : Metered Meter α) (free : Metered Nat α) :
    Prop where
  grows : ∀ count, count ≤ (free.run count).2
  ends : ∀ meter count, Meter.Counts allowed meter count →
    ((limited.run meter).1 = (free.run count).1 ∧
      Meter.Counts allowed (limited.run meter).2 (free.run count).2) ∨
    (Refused (limited.run meter).1 ∧ allowed.toNat < (free.run count).2)

namespace Threshold

variable {allowed : UInt64}

theorem pure (value : α) :
    Threshold allowed (Pure.pure value : Metered Meter α) (Pure.pure value) where
  grows _ := Nat.le_refl _
  ends _ _ counts := .inl ⟨rfl, counts⟩

theorem throw (error : FormulaError) :
    Threshold allowed (MonadExcept.throw error : Metered Meter α) (MonadExcept.throw error) where
  grows _ := Nat.le_refl _
  ends _ _ counts := .inl ⟨rfl, counts⟩

theorem bind {limited : Metered Meter α} {free : Metered Nat α} {next : α → Metered Meter β}
    {freeNext : α → Metered Nat β} (first : Threshold allowed limited free)
    (continues : ∀ value, Threshold allowed (next value) (freeNext value)) :
    Threshold allowed (limited >>= next) (free >>= freeNext) where
  grows count := by
    have before := first.grows count
    rw [Metered.run_bind]
    revert before
    rcases free.run count with ⟨result, middle⟩
    intro before
    cases result with
    | ok value => exact before.trans ((continues value).grows middle)
    | error error => exact before
  ends meter count counts := by
    have before := first.ends meter count counts
    rw [Metered.run_bind, Metered.run_bind]
    revert before
    rcases limited.run meter with ⟨result, after⟩
    rcases free.run count with ⟨freeResult, middle⟩
    rintro (⟨rfl, within⟩ | ⟨⟨range, cells, left, rfl⟩, beyond⟩)
    · cases result with
      | ok value => exact (continues value).ends after middle within
      | error error => exact .inl ⟨rfl, within⟩
    · -- The second goes on from a count that is too large already.
      refine .inr ⟨⟨range, cells, left, rfl⟩, ?_⟩
      cases freeResult with
      | ok value => exact beyond.trans_le ((continues value).grows middle)
      | error error => exact beyond

theorem readRange (grid : Grid) (range : Range) :
    Threshold allowed (grid.source.range range) (grid.unlimited.range range) where
  grows count := Nat.le_add_right _ _
  ends meter count counts := by
    have left := counts.remaining_toNat
    have within := counts.within
    have reads := grid.source_range_run range meter
    change _ ∨ _ ∧ allowed.toNat < count + range.cellCount.toNat
    split at reads
    next beyond =>
      rw [UInt64.lt_iff_toNat_lt, left] at beyond
      rw [reads]
      exact .inr ⟨⟨_, _, _, rfl⟩, by omega⟩
    next covered =>
      rw [UInt64.lt_iff_toNat_lt, left] at covered
      rw [reads]
      exact .inl ⟨rfl, counts.draw (by omega)⟩

end Threshold

def limitation (allowed : UInt64) : Comparison Meter Nat where
  holds := Threshold allowed
  pure := .pure
  throw := .throw
  bind := .bind

theorem Grid.evaluate_threshold (grid : Grid) (allowed : UInt64) {e : Expr}
    (plain : ¬ Calls e.subtrees (.selective .ifError)) :
    Threshold allowed (grid.source.evaluate e) (grid.unlimited.evaluate e) := by
  have covers : (limitation allowed).Covers grid.source grid.unlimited e.subtrees := by
    refine ⟨fun _ _ => rfl, fun range _ => .readRange grid range, ?_⟩
    exact fun name arguments listed found => absurd ⟨name, arguments, listed, found⟩ plain
  exact Comparison.evaluate_holds e covers

namespace Session

/-- Without a recovery from errors the allowance is an exact threshold. An evaluation that reads
every range it comes to ends with `free.1` and has read `free.2` cells; so does an evaluation that
is allowed as many, or that is not refused any, and every other one is refused a range. -/
theorem allowance_threshold (grid : Grid) (options : Options) {e : Expr}
    (plain : ¬ Calls e.subtrees (.selective .ifError)) :
    let free := (grid.unlimited.evaluate e).run 0
    let under (allowed : UInt64) :=
      (start grid { options with maxRangeCells := allowed }).evaluate e
    (∀ allowed, free.2 ≤ allowed.toNat →
      (under allowed).1 = free.1 ∧ (under allowed).2.meter.read.toNat = free.2) ∧
    (∀ allowed, allowed.toNat < free.2 → Refused (under allowed).1) ∧
    (∀ allowed, ¬ Refused (under allowed).1 →
      (under allowed).1 = free.1 ∧ (under allowed).2.meter.read.toNat = free.2) ∧
    ∀ allowed more value, allowed ≤ more → (under allowed).1 = .ok value →
      (under more).1 = .ok value := by
  intro free under
  have ends (allowed : UInt64) :
      ((under allowed).1 = free.1 ∧ Meter.Counts allowed (under allowed).2.meter free.2) ∨
        (Refused (under allowed).1 ∧ allowed.toNat < free.2) :=
    (grid.evaluate_threshold allowed plain).ends _ _ (.fresh allowed)
  have covered (allowed : UInt64) (enough : free.2 ≤ allowed.toNat) :
      (under allowed).1 = free.1 ∧ (under allowed).2.meter.read.toNat = free.2 := by
    rcases ends allowed with ⟨same, counts⟩ | ⟨-, beyond⟩
    · exact ⟨same, counts.read⟩
    · omega
  refine ⟨covered, ?_, ?_, ?_⟩
  · intro allowed beyond
    rcases ends allowed with ⟨-, counts⟩ | ⟨refused, -⟩
    · exact absurd counts.within (Nat.not_le.mpr beyond)
    · exact refused
  · intro allowed accepted
    rcases ends allowed with ⟨-, counts⟩ | ⟨refused, -⟩
    · exact covered allowed counts.within
    · exact absurd refused accepted
  · intro allowed more value further found
    rcases ends allowed with ⟨same, counts⟩ | ⟨⟨_, _, _, refused⟩, -⟩
    · have enough := counts.within.trans (UInt64.le_iff_toNat_le.mp further)
      exact (covered more enough).1.trans (same.symm.trans found)
    · exact nomatch found.symm.trans refused

/-- Two cells for the sum and four for the count. -/
theorem allowance_threshold_six :
    let grid : Grid := .ofValues [["1", "2"], ["3"]]
    let sum : Expr := .call "SUM" [.range (.spanning (.relative 0 0) (.relative 1 0))]
    let count : Expr := .call "COUNT" [.range (.spanning (.relative 0 0) (.relative 1 1))]
    let e : Expr := .binary .add sum count
    let under (allowed : UInt64) :=
      (start grid { Options.standard with maxRangeCells := allowed }).evaluate e
    ¬ Calls e.subtrees (.selective .ifError) ∧ Refused (under 5).1 ∧
      (under 6).1 = ((grid.unlimited.evaluate e).run 0).1 := by
  intro grid sum count e under
  have plain : ¬ Calls e.subtrees (.selective .ifError) := by
    rintro ⟨name, arguments, listed, found⟩
    simp only [e, sum, count, Expr.subtrees, Expr.subtreesAll, List.append_nil, List.cons_append,
      List.nil_append, List.mem_cons, List.not_mem_nil, or_false, reduceCtorEq, false_or,
      Expr.call.injEq] at listed
    rcases listed with ⟨rfl, -⟩ | ⟨rfl, -⟩ <;> cases found
  have reads : ((grid.unlimited.evaluate e).run 0).2 = 6 := by decide +kernel
  have five : (5 : UInt64).toNat < 6 := by decide
  have six : 6 ≤ (6 : UInt64).toNat := by decide
  obtain ⟨covered, refused, -⟩ := allowance_threshold grid .standard plain
  exact ⟨plain, refused 5 (five.trans_eq reads.symm), (covered 6 (reads.trans_le six)).1⟩

end Session

end Spreadsheet
