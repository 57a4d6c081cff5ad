import Spreadsheet.Proofs.Evaluation.Selection
import Spreadsheet.Proofs.Evaluation.Threshold

/-! Calls of functions over rectangles: either the allowance covers all of them, or one is
refused. -/

namespace Spreadsheet

open Spreadsheet.Formula

namespace Meter

theorem draw_draw (meter : Meter) (cells more : UInt64) :
    (meter.draw cells).draw more = meter.draw (cells + more) := by
  unfold draw
  rw [UInt64.add_assoc]

/-- What is drawn is no longer left, also on a meter that counted too far and can only give
nothing. -/
theorem remaining_draw {meter : Meter} {cells : UInt64} (covered : cells ≤ meter.remaining) :
    (meter.draw cells).remaining.toNat + cells.toNat = meter.remaining.toNat := by
  have amount := UInt64.le_iff_toNat_le.mp covered
  by_cases within : meter.read ≤ meter.allowed
  · obtain ⟨read, total⟩ := draw_read_toNat within (UInt64.not_lt.mpr covered)
    rw [remaining_toNat, remaining_toNat, read]
    change meter.allowed.toNat - _ + _ = _
    omega
  · have beyond : meter.remaining = 0 := if_neg within
    rw [beyond] at covered
    obtain rfl : cells = 0 := UInt64.le_zero_iff.mp covered
    have nothing : meter.draw 0 = meter := by
      unfold draw
      rw [UInt64.add_zero]
    rw [nothing]
    rfl

/-- The meter after reads of all the rectangles. -/
def drawAll (meter : Meter) (ranges : List Range) : Meter :=
  ranges.foldl (fun meter range => meter.draw range.cellCount) meter

end Meter

def cellsOf (ranges : List Range) : Nat := (ranges.map fun range => range.cellCount.toNat).sum

@[simp] theorem cellsOf_cons (range : Range) (ranges : List Range) :
    cellsOf (range :: ranges) = range.cellCount.toNat + cellsOf ranges := rfl

/-- What follows a refusal does not happen. -/
theorem Refused.bind {σ α β : Type} {first : Metered σ α} {state : σ}
    (refused : Refused (first.run state).1) (next : α → Metered σ β) :
    Refused ((first >>= next).run state).1 := by
  obtain ⟨range, cells, left, fails⟩ := refused
  refine ⟨range, cells, left, ?_⟩
  rw [Metered.run_bind]
  revert fails
  rcases first.run state with ⟨result, after⟩
  rintro rfl
  rfl

namespace Grid

variable (grid : Grid)

/-- Rectangles are read one after another as long as the allowance covers them. -/
theorem run_evaluateAll_covered {ranges : List Range} {meter : Meter}
    (covered : cellsOf ranges ≤ meter.remaining.toNat) :
    (grid.source.evaluateAll (ranges.map .range)).run meter =
      (.ok (ranges.map grid.typedRange), meter.drawAll ranges) := by
  induction ranges generalizing meter with
  | nil => rfl
  | cons range others ih =>
      rw [cellsOf_cons] at covered
      have first : range.cellCount ≤ meter.remaining := UInt64.le_iff_toNat_le.mpr (by omega)
      have left := Meter.remaining_draw first
      have reads : (grid.source.evaluate (.range range)).run meter =
          (.ok (grid.typedRange range), meter.draw range.cellCount) :=
        (grid.source_range_run range meter).trans (if_neg (UInt64.not_lt.mpr first))
      rw [List.map_cons, Source.evaluateAll, Metered.run_bind, reads]
      dsimp only
      rw [Metered.run_bind, ih (by omega)]
      rfl

/-- Of rectangles that have more cells together than are left, one is refused. -/
theorem run_evaluateAll_refused {ranges : List Range} {meter : Meter}
    (beyond : meter.remaining.toNat < cellsOf ranges) :
    Refused ((grid.source.evaluateAll (ranges.map .range)).run meter).1 := by
  induction ranges generalizing meter with
  | nil => exact absurd beyond (Nat.not_lt_zero _)
  | cons range others ih =>
      rw [cellsOf_cons] at beyond
      have reads := grid.source_range_run range meter
      change (grid.source.evaluate (.range range)).run meter = _ at reads
      rw [List.map_cons, Source.evaluateAll]
      by_cases exceeds : meter.remaining < range.cellCount
      · rw [if_pos exceeds] at reads
        exact .bind ⟨_, _, _, congrArg Prod.fst reads⟩ _
      · rw [if_neg exceeds] at reads
        have left := Meter.remaining_draw (UInt64.not_lt.mp exceeds)
        have refused : Refused
            ((grid.source.evaluateAll (others.map .range)).run (meter.draw range.cellCount)).1 :=
          ih (by omega)
        rw [Metered.run_bind, reads]
        exact refused.bind _

end Grid

theorem Builtin.ofName?_name (f : Strict) : ofName? f.name = some (.strict f) := by
  cases f <;> decide

namespace Session

variable {f : Strict} (session : Session)

theorem evaluate_call {name : String} (named : Builtin.ofName? name = some (.strict f))
    {arguments : List Expr} (admits : f.arity.Admits arguments.length) :
    session.evaluate (.call name arguments) =
      session.run (do f.apply (← session.grid.source.evaluateAll arguments)) := by
  unfold Session.evaluate Spreadsheet.evaluate
  rw [Source.evaluate, named]
  change session.run (liftM (f.arity.check f.name arguments.length) >>= _) = _
  rw [Arity.check_eq_ok_iff.mpr admits]
  rfl

variable (ranges : List Range) (admits : f.arity.Admits ranges.length)

include admits

theorem evaluate_call_ranges : session.evaluate (.call f.name (ranges.map .range)) =
    session.run (do f.apply (← session.grid.source.evaluateAll (ranges.map .range))) := by
  have admitted : f.arity.Admits (ranges.map Expr.range).length := by rwa [List.length_map]
  exact session.evaluate_call (Builtin.ofName?_name f) admitted

/-- A function gets the values of the rectangles. -/
theorem evaluate_call_covered (covered : cellsOf ranges ≤ session.meter.remaining.toNat) :
    session.evaluate (.call f.name (ranges.map .range)) =
      (f.apply (ranges.map session.grid.typedRange),
        { session with meter := session.meter.drawAll ranges }) := by
  rw [session.evaluate_call_ranges ranges admits]
  unfold run
  rw [Metered.run_bind, session.grid.run_evaluateAll_covered covered]
  dsimp only
  cases f.apply (ranges.map session.grid.typedRange) <;> rfl

theorem evaluate_call_refused (beyond : session.meter.remaining.toNat < cellsOf ranges) :
    Refused (session.evaluate (.call f.name (ranges.map .range))).1 := by
  rw [session.evaluate_call_ranges ranges admits]
  exact (session.grid.run_evaluateAll_refused beyond).bind _

end Session

end Spreadsheet
