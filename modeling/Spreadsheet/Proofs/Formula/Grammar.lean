import Mathlib.Tactic
import Spreadsheet.Formula.Parse

/-! The grammar of formulas as a relation between tokens and trees, apart from any way of reading
them. Each phrase carries how many levels its innermost part stands below its own level. -/

namespace Spreadsheet.Formula

open Spreadsheet.Text

/-- Kinds of phrases, from the loosest to the tightest. -/
inductive Tier
  | comparison
  | concatenation
  | addition
  | multiplication
  | power
  | sign
  | percent
  | range
  | primary
  deriving DecidableEq, Repr

namespace Tier

/-- The tier whose phrases are the operands of this one, and phrases of this one too. -/
def tighter? : Tier → Option Tier
  | .comparison => some .concatenation
  | .concatenation => some .addition
  | .addition => some .multiplication
  | .multiplication => some .power
  | .power => some .sign
  | .sign => some .percent
  | .percent => some .range
  | .range => some .primary
  | .primary => none

end Tier

/-- Marks that group from the left, with the tier of their phrases. -/
def Mark.join? : Mark → Option (Tier × BinaryOp)
  | .equal => some (.comparison, .equal)
  | .notEqual => some (.comparison, .notEqual)
  | .lessThan => some (.comparison, .lessThan)
  | .lessEqual => some (.comparison, .lessEqual)
  | .greaterThan => some (.comparison, .greaterThan)
  | .greaterEqual => some (.comparison, .greaterEqual)
  | .ampersand => some (.concatenation, .concat)
  | .plus => some (.addition, .add)
  | .minus => some (.addition, .subtract)
  | .star => some (.multiplication, .multiply)
  | .slash => some (.multiplication, .divide)
  | _ => none

/-- A phrase with what it means, as an argument of a call. -/
structure Reading where
  depth : Nat
  tokens : List Token
  tree : Expr

namespace Reading

/-- Levels below a call that its arguments take, each one level down. -/
def deepest : List Reading → Nat
  | [] => 0
  | first :: others => max (first.depth + 1) (deepest others)

def separated (readings : List Reading) : List Token :=
  [.mark .comma].intercalate (readings.map tokens)

end Reading

/-- `Derives tier depth tokens e`: the tokens are a phrase of the tier and mean `e`. One level down
stand the right operand of `^`, the operand of a sign, what is in parentheses, a call, and within
it each argument. -/
inductive Derives : Tier → Nat → List Token → Expr → Prop
  | tighter {tier inner : Tier} {depth : Nat} {tokens : List Token} {e : Expr}
      (step : tier.tighter? = some inner) (phrase : Derives inner depth tokens e) :
      Derives tier depth tokens e
  | join {tier inner : Tier} {mark : Mark} {op : BinaryOp} {leftDepth rightDepth : Nat}
      {leftTokens rightTokens : List Token} {left right : Expr}
      (joins : mark.join? = some (tier, op)) (step : tier.tighter? = some inner)
      (leftPhrase : Derives tier leftDepth leftTokens left)
      (rightPhrase : Derives inner rightDepth rightTokens right) :
      Derives tier (max leftDepth rightDepth) (leftTokens ++ .mark mark :: rightTokens)
        (.binary op left right)
  | power {baseDepth depth : Nat} {baseTokens tokens : List Token} {base e : Expr}
      (basePhrase : Derives .sign baseDepth baseTokens base)
      (phrase : Derives .power depth tokens e) :
      Derives .power (max baseDepth (depth + 1)) (baseTokens ++ .mark .caret :: tokens)
        (.binary .power base e)
  | minus {depth : Nat} {tokens : List Token} {e : Expr} (phrase : Derives .sign depth tokens e) :
      Derives .sign (depth + 1) (.mark .minus :: tokens) (.unary .negate e)
  | plus {depth : Nat} {tokens : List Token} {e : Expr} (phrase : Derives .sign depth tokens e) :
      Derives .sign (depth + 1) (.mark .plus :: tokens) e
  | percent {depth : Nat} {tokens : List Token} {e : Expr}
      (phrase : Derives .percent depth tokens e) :
      Derives .percent depth (tokens ++ [.mark .percent]) (.unary .percent e)
  | range {firstDepth lastDepth : Nat} {firstTokens lastTokens : List Token}
      {first last : Address}
      (firstPhrase : Derives .primary firstDepth firstTokens (.cell first))
      (lastPhrase : Derives .primary lastDepth lastTokens (.cell last)) :
      Derives .range (max firstDepth lastDepth) (firstTokens ++ .mark .colon :: lastTokens)
        (.range (.spanning first last))
  | number (n : Float) : Derives .primary 0 [.number n] (.number n)
  | text (s : String) : Derives .primary 0 [.text s] (.text s)
  | boolean (b : Bool) : Derives .primary 0 [.boolean b] (.boolean b)
  | name (spelling : String) : Derives .primary 0 [.name spelling] (.name spelling)
  | cell {spelling : String} {address : Address}
      (names : Address.read spelling.toList = .ok address) :
      Derives .primary 0 [.reference spelling] (.cell address)
  | parentheses {depth : Nat} {tokens : List Token} {e : Expr}
      (phrase : Derives .comparison depth tokens e) :
      Derives .primary (depth + 1) (.mark .leftParen :: tokens ++ [.mark .rightParen]) e
  | call (function : String) (arguments : List Reading)
      (phrases : ∀ argument ∈ arguments,
        Derives .comparison argument.depth argument.tokens argument.tree) :
      Derives .primary (Reading.deepest arguments + 1)
        (.name function :: .mark .leftParen :: Reading.separated arguments ++ [.mark .rightParen])
        (.call (.ofList (upperAscii function.toList)) (arguments.map Reading.tree))

def Means (tokens : List Token) (e : Expr) : Prop :=
  ∃ depth, Derives .comparison depth tokens e

mutual

/-- Operators of a tree other than negations. -/
def Expr.operatorCount : Expr → Nat
  | .binary _ left right => left.operatorCount + right.operatorCount + 1
  | .unary .percent operand => operand.operatorCount + 1
  | .unary .negate operand => operand.operatorCount
  | .call _ arguments => Expr.operatorCountAll arguments
  | _ => 0

def Expr.operatorCountAll : List Expr → Nat
  | [] => 0
  | first :: others => first.operatorCount + Expr.operatorCountAll others

end

namespace Reading

@[simp] theorem separated_nil : separated [] = [] := rfl

theorem separated_cons (first : Reading) (others : List Reading) :
    separated (first :: others) =
      first.tokens ++ others.flatMap fun other => .mark .comma :: other.tokens := by
  induction others generalizing first with
  | nil => simp [separated, List.intercalate]
  | cons second others ih =>
      have tail := ih second
      simp only [separated, List.map_cons, List.intercalate, List.intersperse_cons_cons,
        List.flatten_cons, List.flatMap_cons] at tail ⊢
      rw [tail]
      simp

theorem mem_separated {reading : Reading} {readings : List Reading} {token : Token}
    (listed : reading ∈ readings) (inside : token ∈ reading.tokens) :
    token ∈ separated readings := by
  cases readings with
  | nil => cases listed
  | cons first others =>
      rw [separated_cons, List.mem_append]
      rcases List.mem_cons.mp listed with rfl | behind
      · exact .inl inside
      · exact .inr (List.mem_flatMap.mpr ⟨reading, behind, List.mem_cons_of_mem _ inside⟩)

theorem length_separated_le (first : Reading) (others : List Reading) :
    first.tokens.length + (separated others).length ≤ (separated (first :: others)).length := by
  rw [separated_cons]
  cases others with
  | nil => simp
  | cons second others =>
      rw [separated_cons]
      simp only [List.length_append, List.flatMap_cons, List.length_cons]
      omega

theorem deepest_le_length_separated {readings : List Reading}
    (bounded : ∀ reading ∈ readings, reading.depth < reading.tokens.length) :
    deepest readings ≤ (separated readings).length := by
  induction readings with
  | nil => exact Nat.le_refl 0
  | cons first others ih =>
      have ofFirst := bounded first (by simp)
      have ofOthers := ih fun other member => bounded other (by simp [member])
      have := length_separated_le first others
      simp only [deepest]
      omega

theorem operatorCountAll_le_length_separated {readings : List Reading}
    (bounded : ∀ reading ∈ readings, reading.tree.operatorCount < reading.tokens.length) :
    Expr.operatorCountAll (readings.map tree) ≤ (separated readings).length := by
  induction readings with
  | nil => exact Nat.le_refl 0
  | cons first others ih =>
      have ofFirst := bounded first (by simp)
      have ofOthers := ih fun other member => bounded other (by simp [member])
      have := length_separated_le first others
      simp only [List.map_cons, Expr.operatorCountAll]
      omega

end Reading

/-- Every level of nesting and every operator takes a token of its own, and one is left. -/
theorem Derives.lt_length {tier : Tier} {depth : Nat} {tokens : List Token} {e : Expr}
    (phrase : Derives tier depth tokens e) :
    depth < tokens.length ∧ e.operatorCount < tokens.length := by
  induction phrase with
  | tighter _ _ ih => exact ih
  | join _ _ _ _ ihLeft ihRight =>
      simp only [List.length_append, List.length_cons, Expr.operatorCount]
      omega
  | power _ _ ihBase ih =>
      simp only [List.length_append, List.length_cons, Expr.operatorCount]
      omega
  | minus _ ih =>
      simp only [List.length_cons, Expr.operatorCount]
      omega
  | plus _ ih =>
      simp only [List.length_cons]
      omega
  | percent _ ih =>
      simp only [List.length_append, List.length_cons, Expr.operatorCount]
      omega
  | range _ _ ihFirst ihLast =>
      simp only [List.length_append, List.length_cons, Expr.operatorCount]
      omega
  | number | text | boolean | name | cell => exact ⟨Nat.one_pos, Nat.one_pos⟩
  | parentheses _ ih =>
      simp only [List.length_append, List.length_cons]
      omega
  | call function arguments _ ih =>
      have depths := Reading.deepest_le_length_separated fun argument member =>
        (ih argument member).1
      have counts := Reading.operatorCountAll_le_length_separated fun argument member =>
        (ih argument member).2
      simp only [List.length_append, List.length_cons, Expr.operatorCount]
      omega

end Spreadsheet.Formula
