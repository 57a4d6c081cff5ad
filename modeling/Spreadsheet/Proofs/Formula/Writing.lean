import Spreadsheet.Proofs.Decimal.Exact
import Spreadsheet.Proofs.Formula.Completeness
import Spreadsheet.Proofs.Formula.Scanning

/-! Trees written as text, with no more parentheses than their operators ask for. -/

namespace Spreadsheet.Formula

open Spreadsheet.Text
open Spreadsheet.Decimal

namespace BinaryOp

def mark : BinaryOp → Mark
  | .add => .plus
  | .subtract => .minus
  | .multiply => .star
  | .divide => .slash
  | .power => .caret
  | .equal => .equal
  | .notEqual => .notEqual
  | .lessThan => .lessThan
  | .lessEqual => .lessEqual
  | .greaterThan => .greaterThan
  | .greaterEqual => .greaterEqual
  | .concat => .ampersand

def tier : BinaryOp → Tier
  | .equal | .notEqual | .lessThan | .lessEqual | .greaterThan | .greaterEqual => .comparison
  | .concat => .concatenation
  | .add | .subtract => .addition
  | .multiply | .divide => .multiplication
  | .power => .power

/-- What stands on the left without parentheses: all but powers group from there. -/
def leftTier : BinaryOp → Tier
  | .power => .sign
  | op => op.tier

def rightTier : BinaryOp → Tier
  | .equal | .notEqual | .lessThan | .lessEqual | .greaterThan | .greaterEqual => .concatenation
  | .concat => .addition
  | .add | .subtract => .multiplication
  | .multiply | .divide => .power
  | .power => .power

end BinaryOp

namespace Expr

/-- The tightest phrase that a tree is written as. -/
def tier : Expr → Tier
  | .binary op _ _ => op.tier
  | .unary .negate _ => .sign
  | .unary .percent _ => .percent
  | .range _ => .range
  | _ => .primary

/-- The text of a tree where phrases of a tier may stand. -/
def enclose (e : Expr) (tier : Tier) (text : List Char) : List Char :=
  if e.tier.rank ≤ tier.rank then text else '(' :: (text ++ [')'])

end Expr

def booleanWord : Bool → List Char
  | true => ['T', 'R', 'U', 'E']
  | false => ['F', 'A', 'L', 'S', 'E']

structure Writing where
  tree : Expr
  text : List Char

inductive Writes : Expr → List Char → Prop
  | number {spelling : List Char} {n : Float} (spells : Spells spelling n) :
      Writes (.number n) spelling
  | text (s : String) : Writes (.text s) ('"' :: (doubleQuotes s.toList ++ ['"']))
  | boolean (b : Bool) : Writes (.boolean b) (booleanWord b)
  | cell (address : Address) : Writes (.cell address) address.print
  | range (range : Range) : Writes (.range range) (range.first.print ++ ':' :: range.last.print)
  | name (spelling : String) : Writes (.name spelling) spelling.toList
  | binary (op : BinaryOp) {left right : Expr} {leftText rightText : List Char}
      (leftWritten : Writes left leftText) (rightWritten : Writes right rightText) :
      Writes (.binary op left right)
        (left.enclose op.leftTier leftText ++ op.mark.symbol ++
          right.enclose op.rightTier rightText)
  | negate {operand : Expr} {text : List Char} (written : Writes operand text) :
      Writes (.unary .negate operand) ('-' :: operand.enclose .sign text)
  | percent {operand : Expr} {text : List Char} (written : Writes operand text) :
      Writes (.unary .percent operand) (operand.enclose .percent text ++ ['%'])
  | call (function : String) (arguments : List Writing)
      (written : ∀ argument ∈ arguments, Writes argument.tree argument.text) :
      Writes (.call function (arguments.map Writing.tree))
        (function.toList ++ '(' :: ([','].intercalate (arguments.map Writing.text) ++ [')']))

/-- Trees that have a text: numbers without a sign, references within the sheet, names that are
read as such, and functions in upper case. -/
def Expr.HasText : Expr → Prop
  | .number n => ∃ mantissa exponent, Binary.datum n = .finite false mantissa exponent
  | .cell address => address.InSheet
  | .range rectangle => rectangle.Ordered ∧ rectangle.first.InSheet ∧ rectangle.last.InSheet
  | .name spelling => IsName spelling.toList
  | .call function _ =>
    isWord function.toList = true ∧ upperAscii function.toList = function.toList
  | _ => True

def Expr.Writable (e : Expr) : Prop := ∀ tree ∈ e.subtrees, tree.HasText

mutual

theorem exists_writes : (e : Expr) → e.Writable → ∃ text, Writes e text
  | .number n, writable => by
      obtain ⟨mantissa, exponent, finite⟩ := writable _ List.mem_cons_self
      exact ⟨_, .number (spells_exact finite)⟩
  | .text s, _ => ⟨_, .text s⟩
  | .boolean b, _ => ⟨_, .boolean b⟩
  | .cell address, _ => ⟨_, .cell address⟩
  | .range rectangle, _ => ⟨_, .range rectangle⟩
  | .name spelling, _ => ⟨_, .name spelling⟩
  | .binary op left right, writable => by
      obtain ⟨-, leftWritable, rightWritable⟩ := Expr.forall_subtrees_binary.mp writable
      obtain ⟨leftText, leftWritten⟩ := exists_writes left leftWritable
      obtain ⟨rightText, rightWritten⟩ := exists_writes right rightWritable
      exact ⟨_, .binary op leftWritten rightWritten⟩
  | .unary op operand, writable => by
      obtain ⟨text, written⟩ := exists_writes operand (Expr.forall_subtrees_unary.mp writable).2
      cases op with
      | negate => exact ⟨_, .negate written⟩
      | percent => exact ⟨_, .percent written⟩
  | .call function arguments, writable => by
      obtain ⟨writings, rfl, written⟩ :=
        exists_writings arguments (Expr.forall_subtrees_call.mp writable).2
      exact ⟨_, .call function writings written⟩

theorem exists_writings : (trees : List Expr) → (∀ tree ∈ trees, tree.Writable) →
    ∃ writings : List Writing, writings.map Writing.tree = trees ∧
      ∀ writing ∈ writings, Writes writing.tree writing.text
  | [], _ => ⟨[], rfl, nofun⟩
  | first :: others, writable => by
      obtain ⟨ofFirst, ofOthers⟩ := List.forall_mem_cons.mp writable
      obtain ⟨text, written⟩ := exists_writes first ofFirst
      obtain ⟨writings, rfl, others⟩ := exists_writings others ofOthers
      exact ⟨⟨first, text⟩ :: writings, rfl, List.forall_mem_cons.mpr ⟨written, others⟩⟩

end

end Spreadsheet.Formula
