import Mathlib.Tactic
import Spreadsheet.Formula.Expr

namespace Spreadsheet

namespace Formula.Expr

mutual

def subtrees : Expr → List Expr
  | .binary op left right => .binary op left right :: (left.subtrees ++ right.subtrees)
  | .unary op operand => .unary op operand :: operand.subtrees
  | .call function arguments => .call function arguments :: subtreesAll arguments
  | leaf => [leaf]

def subtreesAll : List Expr → List Expr
  | [] => []
  | first :: others => first.subtrees ++ subtreesAll others

end

theorem mem_subtreesAll {tree : Expr} {trees : List Expr} :
    tree ∈ subtreesAll trees ↔ ∃ top ∈ trees, tree ∈ top.subtrees := by
  induction trees with
  | nil => simp [subtreesAll]
  | cons first others ih => simp [subtreesAll, ih]

section Forall

variable {holds : Expr → Prop}

theorem forall_subtrees_binary {op : BinaryOp} {left right : Expr} :
    (∀ tree ∈ (Expr.binary op left right).subtrees, holds tree) ↔
      holds (.binary op left right) ∧
        (∀ tree ∈ left.subtrees, holds tree) ∧ ∀ tree ∈ right.subtrees, holds tree := by
  simp only [subtrees, List.forall_mem_cons, List.forall_mem_append]

theorem forall_subtrees_unary {op : UnaryOp} {operand : Expr} :
    (∀ tree ∈ (Expr.unary op operand).subtrees, holds tree) ↔
      holds (.unary op operand) ∧ ∀ tree ∈ operand.subtrees, holds tree := by
  simp only [subtrees, List.forall_mem_cons]

theorem forall_subtrees_call {function : String} {arguments : List Expr} :
    (∀ tree ∈ (Expr.call function arguments).subtrees, holds tree) ↔
      holds (.call function arguments) ∧
        ∀ argument ∈ arguments, ∀ tree ∈ argument.subtrees, holds tree := by
  simp only [subtrees, List.forall_mem_cons, mem_subtreesAll]
  refine and_congr_right fun _ => ⟨?_, ?_⟩
  · exact fun within argument listed tree inside => within tree ⟨argument, listed, inside⟩
  · exact fun within tree ⟨argument, listed, inside⟩ => within argument listed tree inside

end Forall

end Formula.Expr

def Address.InSheet (address : Address) : Prop :=
  address.row.toNat < rowLimit ∧ address.column.toNat < columnLimit

/-- The corners stand in order, so that there are cells between them. -/
def Range.Ordered (range : Range) : Prop :=
  range.first.row ≤ range.last.row ∧ range.first.column ≤ range.last.column

theorem Range.spanning_of_ordered {range : Range} (ordered : range.Ordered) :
    spanning range.first range.last = range := by
  unfold spanning
  rw [if_pos ordered.1, if_pos ordered.2]

theorem Range.ordered_spanning (a b : Address) : (spanning a b).Ordered := by
  have rows : (if a.row ≤ b.row then (a, b) else (b, a)).1.row ≤
      (if a.row ≤ b.row then (a, b) else (b, a)).2.row := by
    split
    next ordered => exact ordered
    next reversed => exact UInt32.le_of_lt (UInt32.not_le.mp reversed)
  have columns : (if a.column ≤ b.column then (a, b) else (b, a)).1.column ≤
      (if a.column ≤ b.column then (a, b) else (b, a)).2.column := by
    split
    next ordered => exact ordered
    next reversed => exact UInt16.le_of_lt (UInt16.not_le.mp reversed)
  exact ⟨rows, columns⟩

namespace Formula.Expr

/-- Literals are finite, references lie within the sheet, and rectangles have cells. -/
def IsSound : Expr → Prop
  | .number n => n.isFinite = true
  | .cell address => address.InSheet
  | .range rectangle => rectangle.Ordered ∧ rectangle.first.InSheet ∧ rectangle.last.InSheet
  | _ => True

def WellFormed (expr : Expr) : Prop := ∀ tree ∈ expr.subtrees, tree.IsSound

theorem wellFormed_binary {op : BinaryOp} {left right : Expr} :
    (Expr.binary op left right).WellFormed ↔ left.WellFormed ∧ right.WellFormed :=
  forall_subtrees_binary.trans (and_iff_right trivial)

theorem wellFormed_unary {op : UnaryOp} {operand : Expr} :
    (Expr.unary op operand).WellFormed ↔ operand.WellFormed :=
  forall_subtrees_unary.trans (and_iff_right trivial)

theorem wellFormed_call {function : String} {arguments : List Expr} :
    (Expr.call function arguments).WellFormed ↔ ∀ argument ∈ arguments, argument.WellFormed :=
  forall_subtrees_call.trans (and_iff_right trivial)

end Formula.Expr

end Spreadsheet
