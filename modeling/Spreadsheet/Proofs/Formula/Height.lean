import Spreadsheet.Proofs.Formula.Grammar

/-! How high a tree is that tokens mean. A level of the tree is either counted as an operator, or
taken from the depth of the text. -/

namespace Spreadsheet.Formula

namespace Expr

mutual

/-- Nodes on the longest way down, the tree itself included. -/
def height : Expr → Nat
  | .binary _ left right => max left.height right.height + 1
  | .unary _ operand => operand.height + 1
  | .call _ arguments => heightAll arguments + 1
  | _ => 1

def heightAll : List Expr → Nat
  | [] => 0
  | first :: others => max first.height (heightAll others)

end

def children : Expr → List Expr
  | .binary _ left right => [left, right]
  | .unary _ operand => [operand]
  | .call _ arguments => arguments
  | _ => []

/-- `Path root above node`: a way down from the root to a node, with what stands above the node. -/
inductive Path : Expr → List Expr → Expr → Prop
  | here (node : Expr) : Path node [] node
  | down {root child node : Expr} {above : List Expr} (below : child ∈ root.children)
      (path : Path child above node) : Path root (root :: above) node

def isNegation : Expr → Bool
  | .unary .negate _ => true
  | _ => false

def isCall : Expr → Bool
  | .call _ _ => true
  | _ => false

theorem height_le_heightAll {tree : Expr} {trees : List Expr} (listed : tree ∈ trees) :
    tree.height ≤ heightAll trees := by
  induction trees with
  | nil => cases listed
  | cons first others ih =>
      rcases List.mem_cons.mp listed with rfl | later
      · exact Nat.le_max_left _ _
      · exact Nat.le_trans (ih later) (Nat.le_max_right _ _)

theorem heightAll_le {trees : List Expr} {bound : Nat}
    (bounded : ∀ tree ∈ trees, tree.height ≤ bound) : heightAll trees ≤ bound := by
  induction trees with
  | nil => exact Nat.zero_le _
  | cons first others ih =>
      obtain ⟨ofFirst, ofOthers⟩ := List.forall_mem_cons.mp bounded
      exact Nat.max_le.mpr ⟨ofFirst, ih ofOthers⟩

theorem height_pos (tree : Expr) : 0 < tree.height := by
  cases tree <;> exact Nat.succ_pos _

theorem height_lt_of_child {child tree : Expr} (below : child ∈ tree.children) :
    child.height < tree.height := by
  cases tree with
  | binary op left right =>
      rcases List.mem_pair.mp below with rfl | rfl
      · exact Nat.lt_succ_of_le (Nat.le_max_left _ _)
      · exact Nat.lt_succ_of_le (Nat.le_max_right _ _)
  | unary op operand =>
      rw [List.mem_singleton.mp below]
      exact Nat.lt_succ_self _
  | call function arguments => exact Nat.lt_succ_of_le (height_le_heightAll below)
  | number | text | boolean | cell | range | name => cases below

theorem Path.length_lt_height {root node : Expr} {above : List Expr} (path : Path root above node) :
    above.length < root.height := by
  induction path with
  | here node => exact node.height_pos
  | down below _ ih =>
      have higher := height_lt_of_child below
      rw [List.length_cons]
      omega

/-- Levels of the text that the nodes of a path take: a sign one, and a call one with another for
its argument. -/
def levels (above : List Expr) : Nat := above.countP isNegation + 2 * above.countP isCall

theorem levels_cons_negate (operand : Expr) (above : List Expr) :
    levels (.unary .negate operand :: above) = levels above + 1 := by
  simp only [levels, List.countP_cons, isNegation, isCall, Bool.false_eq_true, if_true, if_false]
  omega

theorem levels_cons_call (function : String) (arguments above : List Expr) :
    levels (.call function arguments :: above) = levels above + 2 := by
  simp only [levels, List.countP_cons, isNegation, isCall, Bool.false_eq_true, if_true, if_false]
  omega

theorem levels_cons_operator {node : Expr} (noNegation : node.isNegation = false)
    (noCall : node.isCall = false) (above : List Expr) : levels (node :: above) = levels above := by
  simp only [levels, List.countP_cons, noNegation, noCall, Bool.false_eq_true, if_false]
  omega

end Expr

theorem Reading.depth_lt_deepest {reading : Reading} {readings : List Reading}
    (listed : reading ∈ readings) : reading.depth < deepest readings := by
  induction readings with
  | nil => cases listed
  | cons first others ih =>
      change reading.depth < max (first.depth + 1) (deepest others)
      rcases List.mem_cons.mp listed with rfl | later
      · omega
      · have := ih later
        omega

theorem Expr.operatorCount_le_all {tree : Expr} {trees : List Expr} (listed : tree ∈ trees) :
    tree.operatorCount ≤ operatorCountAll trees := by
  induction trees with
  | nil => cases listed
  | cons first others ih =>
      change tree.operatorCount ≤ first.operatorCount + operatorCountAll others
      rcases List.mem_cons.mp listed with rfl | later
      · omega
      · have := ih later
        omega

/-- Each level of a tree is an operator of it or a level of its text. -/
theorem Derives.height_le {tier : Tier} {depth : Nat} {tokens : List Token} {e : Expr}
    (phrase : Derives tier depth tokens e) : e.height ≤ depth + 1 + e.operatorCount := by
  induction phrase with
  | tighter _ _ ih => exact ih
  | join _ _ _ _ ihLeft ihRight =>
      simp only [Expr.height, Expr.operatorCount]
      omega
  | power _ _ ihBase ih =>
      simp only [Expr.height, Expr.operatorCount]
      omega
  | minus _ ih =>
      simp only [Expr.height, Expr.operatorCount]
      omega
  | plus _ ih => omega
  | percent _ ih =>
      simp only [Expr.height, Expr.operatorCount]
      omega
  | range | number | text | boolean | name | cell => exact Nat.le_add_left _ _
  | parentheses _ ih => omega
  | call function arguments _ ih =>
      have highest : Expr.heightAll (arguments.map Reading.tree) ≤
          Reading.deepest arguments + Expr.operatorCountAll (arguments.map Reading.tree) := by
        refine Expr.heightAll_le fun tree listed => ?_
        obtain ⟨argument, member, rfl⟩ := List.mem_map.mp listed
        have := ih argument member
        have := Reading.depth_lt_deepest member
        have := Expr.operatorCount_le_all listed
        omega
      simp only [Expr.height, Expr.operatorCount]
      omega

/-- Signs and calls above a node stand above its text as well. -/
theorem Derives.levels_le {tier : Tier} {depth : Nat} {tokens : List Token} {e node : Expr}
    {above : List Expr} (phrase : Derives tier depth tokens e) (path : Expr.Path e above node) :
    Expr.levels above ≤ depth := by
  induction phrase generalizing above with
  | tighter _ _ ih => exact ih path
  | join _ _ _ _ ihLeft ihRight =>
      cases path with
      | here => exact Nat.zero_le _
      | down below path =>
          rw [Expr.levels_cons_operator rfl rfl]
          rcases List.mem_pair.mp below with rfl | rfl
          · exact Nat.le_trans (ihLeft path) (Nat.le_max_left _ _)
          · exact Nat.le_trans (ihRight path) (Nat.le_max_right _ _)
  | power _ _ ihBase ih =>
      cases path with
      | here => exact Nat.zero_le _
      | down below path =>
          rw [Expr.levels_cons_operator rfl rfl]
          rcases List.mem_pair.mp below with rfl | rfl
          · exact Nat.le_trans (ihBase path) (Nat.le_max_left _ _)
          · have := ih path
            omega
  | minus _ ih =>
      cases path with
      | here => exact Nat.zero_le _
      | down below path =>
          obtain rfl := List.mem_singleton.mp below
          rw [Expr.levels_cons_negate]
          exact Nat.succ_le_succ (ih path)
  | plus _ ih | parentheses _ ih => exact Nat.le_succ_of_le (ih path)
  | percent _ ih =>
      cases path with
      | here => exact Nat.zero_le _
      | down below path =>
          obtain rfl := List.mem_singleton.mp below
          rw [Expr.levels_cons_operator rfl rfl]
          exact ih path
  | range | number | text | boolean | name | cell =>
      cases path with
      | here => exact Nat.zero_le _
      | down below _ => cases below
  | call function arguments _ ih =>
      cases path with
      | here => exact Nat.zero_le _
      | down below path =>
          obtain ⟨argument, member, rfl⟩ := List.mem_map.mp below
          have inside := ih argument member path
          have deeper := Reading.depth_lt_deepest member
          rw [Expr.levels_cons_call]
          omega

end Spreadsheet.Formula
