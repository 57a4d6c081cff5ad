import Spreadsheet.Proofs.Formula.Subtrees

namespace Spreadsheet.Formula

/-- A node without one of the trees below it. -/
inductive Frame
  | leftOf (op : BinaryOp) (right : Expr)
  | rightOf (op : BinaryOp) (left : Expr)
  | under (op : UnaryOp)
  | among (function : String) (before behind : List Expr)

def Frame.fill : Frame → Expr → Expr
  | .leftOf op right, e => .binary op e right
  | .rightOf op left, e => .binary op left e
  | .under op, e => .unary op e
  | .among function before behind, e => .call function (before ++ e :: behind)

/-- A place in a tree: the nodes above it, from the root on. -/
abbrev Place := List Frame

def Place.fill (place : Place) (e : Expr) : Expr := place.foldr Frame.fill e

/-- Each tree within a tree stands at some place of it. -/
theorem Expr.exists_place {part : Expr} : (e : Expr) → part ∈ e.subtrees →
    ∃ place : Place, place.fill part = e
  | .number _, member | .text _, member | .boolean _, member | .cell _, member
  | .range _, member | .name _, member => ⟨[], List.mem_singleton.mp member⟩
  | .binary op left right, member => by
      rcases List.mem_cons.mp member with rfl | below
      · exact ⟨[], rfl⟩
      rcases List.mem_append.mp below with inLeft | inRight
      · obtain ⟨place, rfl⟩ := exists_place left inLeft
        exact ⟨.leftOf op right :: place, rfl⟩
      · obtain ⟨place, rfl⟩ := exists_place right inRight
        exact ⟨.rightOf op left :: place, rfl⟩
  | .unary op operand, member => by
      rcases List.mem_cons.mp member with rfl | below
      · exact ⟨[], rfl⟩
      obtain ⟨place, rfl⟩ := exists_place operand below
      exact ⟨.under op :: place, rfl⟩
  | .call function arguments, member => by
      rcases List.mem_cons.mp member with rfl | below
      · exact ⟨[], rfl⟩
      obtain ⟨argument, listed, inside⟩ := Expr.mem_subtreesAll.mp below
      obtain ⟨place, rfl⟩ := exists_place argument inside
      obtain ⟨before, behind, rfl⟩ := List.append_of_mem listed
      exact ⟨.among function before behind :: place, rfl⟩

end Spreadsheet.Formula
