import Spreadsheet.Proofs.Address.Read
import Spreadsheet.Proofs.Formula.Parse
import Spreadsheet.Proofs.Formula.Subtrees

namespace Spreadsheet

open Spreadsheet.Text

theorem Range.sound_spanning {a b : Address} (first : a.InSheet) (last : b.InSheet) :
    (Formula.Expr.range (.spanning a b)).IsSound := by
  have inside (chosen : Prop) [Decidable chosen] :
      (if chosen then (a, b) else (b, a)).1.InSheet ∧
        (if chosen then (a, b) else (b, a)).2.InSheet := by
    split
    next => exact ⟨first, last⟩
    next => exact ⟨last, first⟩
  have byRow := inside (a.row ≤ b.row)
  have byColumn := inside (a.column ≤ b.column)
  exact ⟨Range.ordered_spanning a b, ⟨byRow.1.1, byColumn.1.2⟩, ⟨byRow.2.1, byColumn.2.2⟩⟩

namespace Formula

def Token.IsFinite : Token → Prop
  | .number n => n.isFinite = true
  | _ => True

theorem isFinite_numberToken (s : List Char) : (numberToken s).1.IsFinite := by
  unfold numberToken
  dsimp only
  split
  next isFinite => exact isFinite
  next => trivial

theorem isFinite_wordToken (word : List Char) (called : Bool) :
    (wordToken word called).IsFinite := by
  unfold wordToken
  repeat' split
  all_goals trivial

theorem isFinite_scanAt (c : Char) (rest : List Char) : (scanAt c rest).1.IsFinite := by
  unfold scanAt
  split
  next => trivial
  next =>
    split
    next => split <;> trivial
    next =>
      split
      next => exact isFinite_numberToken _
      next =>
        split
        next => exact isFinite_wordToken _ _
        next => trivial

theorem isFinite_tokens (s : List Char) : ∀ token ∈ tokens s, token.IsFinite := by
  fun_induction tokens s with
  | case1 => exact List.forall_mem_nil _
  | case2 s token rest found ih =>
      refine List.forall_mem_cons.mpr ⟨?_, ih⟩
      unfold scan? at found
      split at found
      next => cases found
      next c behind _ =>
        have first := isFinite_scanAt c behind
        rw [Option.some.inj found] at first
        exact first

theorem Derives.wellFormed {tier : Tier} {depth : Nat} {tokens : List Token} {e : Expr}
    (phrase : Derives tier depth tokens e) (finite : ∀ token ∈ tokens, token.IsFinite) :
    e.WellFormed := by
  induction phrase with
  | tighter _ _ ih => exact ih finite
  | join _ _ _ _ ihLeft ihRight =>
      rw [List.forall_mem_append, List.forall_mem_cons] at finite
      exact Expr.wellFormed_binary.mpr ⟨ihLeft finite.1, ihRight finite.2.2⟩
  | power _ _ ihBase ih =>
      rw [List.forall_mem_append, List.forall_mem_cons] at finite
      exact Expr.wellFormed_binary.mpr ⟨ihBase finite.1, ih finite.2.2⟩
  | minus _ ih => exact Expr.wellFormed_unary.mpr (ih (List.forall_mem_cons.mp finite).2)
  | plus _ ih => exact ih (List.forall_mem_cons.mp finite).2
  | percent _ ih => exact Expr.wellFormed_unary.mpr (ih (List.forall_mem_append.mp finite).1)
  | range _ _ ihFirst ihLast =>
      rw [List.forall_mem_append, List.forall_mem_cons] at finite
      have first := ihFirst finite.1 _ List.mem_cons_self
      have last := ihLast finite.2.2 _ List.mem_cons_self
      exact List.forall_mem_singleton.mpr (Range.sound_spanning first last)
  | number n => exact List.forall_mem_singleton.mpr (finite _ List.mem_cons_self)
  | text | boolean | name => exact List.forall_mem_singleton.mpr trivial
  | cell names => exact List.forall_mem_singleton.mpr (Address.inSheet_of_read names)
  | parentheses _ ih =>
      rw [List.cons_append, List.forall_mem_cons, List.forall_mem_append] at finite
      exact ih finite.2.1
  | call function arguments _ ih =>
      refine Expr.wellFormed_call.mpr fun tree listed => ?_
      obtain ⟨argument, member, rfl⟩ := List.mem_map.mp listed
      refine ih argument member fun token inside => finite token ?_
      have among := Reading.mem_separated member inside
      simp [among]

theorem wellFormed_of_parse {options : Options} {formula : String} {e : Expr}
    (parses : options.parse formula = .ok e) : e.WellFormed := by
  obtain ⟨_, phrase, _⟩ := parse_eq_ok_iff.mp parses
  exact phrase.wellFormed (isFinite_tokens _)

end Formula

end Spreadsheet
