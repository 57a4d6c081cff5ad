import Spreadsheet.Evaluation
import Spreadsheet.Proofs.Formula.Height
import Spreadsheet.Proofs.Formula.Parse

/-! How deep an evaluation goes: no deeper than its tree is high, and so not beyond the limits. -/

namespace Spreadsheet

open Spreadsheet.Formula

variable {σ : Type}

namespace Source

/-! One level of an evaluation. The values of the trees below come from elsewhere. -/

def chooseWith (inner : Expr → Metered σ Value) : Selective → List Expr → Metered σ Value
  | .cond, [] => throw (Selective.missing .cond 0)
  | .cond, [condition] => do
    if ← (← inner condition).toBool then throw (Selective.missing .cond 1)
    else return .boolean false
  | .cond, [condition, yes] => do
    if ← (← inner condition).toBool then inner yes
    else return .boolean false
  | .cond, condition :: yes :: no :: _ => do
    if ← (← inner condition).toBool then inner yes
    else inner no
  | .ifError, [value, fallback] => tryCatch (inner value) fun _ => inner fallback
  | .ifError, arguments => throw (Selective.missing .ifError arguments.length)

def callWith (name : String) (count : Nat) (values : Metered σ (List Value))
    (chosen : Selective → Metered σ Value) : Metered σ Value :=
  match Builtin.ofName? name with
  | none => throw (.unknownFunction name)
  | some function => do
    function.arity.check function.name count
    match function with
    | .strict f => do f.apply (← values)
    | .selective f => chosen f

def level (source : Source σ) (inner : Expr → Metered σ Value) : Expr → Metered σ Value
  | .number n => return .number n
  | .text s => return .text s
  | .boolean b => return .boolean b
  | .cell address => return source.cell address
  | .range range => source.range range
  | .name spelling => throw (.unknownName spelling)
  | .binary op left right => do
    let a ← (← inner left).scalar
    let b ← (← inner right).scalar
    op.apply a b
  | .unary op operand => do op.apply (← inner operand)
  | .call name arguments =>
    callWith name arguments.length (arguments.mapM inner) fun f => chooseWith inner f arguments

variable {source : Source σ} {inner : Expr → Metered σ Value}

theorem evaluate_call (name : String) (arguments : List Expr) :
    source.evaluate (.call name arguments) =
      callWith name arguments.length (source.evaluateAll arguments) fun f =>
        source.select f arguments := rfl

theorem mapM_eq_evaluateAll {exprs : List Expr}
    (same : ∀ expr ∈ exprs, inner expr = source.evaluate expr) :
    exprs.mapM inner = source.evaluateAll exprs := by
  induction exprs with
  | nil => rfl
  | cons first others ih =>
      obtain ⟨ofFirst, ofOthers⟩ := List.forall_mem_cons.mp same
      rw [List.mapM_cons, evaluateAll, ofFirst, ih ofOthers]

theorem chooseWith_eq_select (function : Selective) {exprs : List Expr}
    (same : ∀ expr ∈ exprs, inner expr = source.evaluate expr) :
    chooseWith inner function exprs = source.select function exprs := by
  unfold chooseWith
  split <;> simp_all [select]

/-- A level over the values of the trees below is an evaluation. -/
theorem level_eq_evaluate {expr : Expr}
    (same : ∀ child ∈ expr.children, inner child = source.evaluate child) :
    source.level inner expr = source.evaluate expr := by
  cases expr with
  | binary op left right =>
      have ofLeft : inner left = source.evaluate left := same left (by simp [Expr.children])
      have ofRight : inner right = source.evaluate right := same right (by simp [Expr.children])
      rw [level, evaluate, ofLeft, ofRight]
  | unary op operand => rw [level, evaluate, List.forall_mem_singleton.mp same]
  | call name arguments =>
      have all : arguments.mapM inner = source.evaluateAll arguments := mapM_eq_evaluateAll same
      have chosen (f : Selective) : chooseWith inner f arguments = source.select f arguments :=
        chooseWith_eq_select f same
      rw [level, all, funext chosen]
      exact (evaluate_call name arguments).symm
  | number | text | boolean | cell | range | name => rw [level, evaluate]

/-- As many levels as a tree is high are its evaluation, whatever stands below them. -/
theorem iterate_level_eq_evaluate (stuck : Expr → Metered σ Value) {levels : Nat} {expr : Expr}
    (deep : expr.height ≤ levels) : source.level^[levels] stuck expr = source.evaluate expr := by
  induction levels generalizing expr with
  | zero => exact absurd expr.height_pos (Nat.not_lt.mpr deep)
  | succ levels ih =>
      rw [Function.iterate_succ_apply']
      refine level_eq_evaluate fun child below => ih ?_
      have lower := Expr.height_lt_of_child below
      omega

end Source

/-- The limits bound the height of every tree that is read, how many nodes stand on any way down
from its root, and how many levels deep its evaluation goes. -/
theorem Formula.height_bounded {options : Options} {formula : String} {e : Expr}
    (parses : options.parse formula = .ok e) :
    e.height ≤ options.maxDepth.toNat + options.maxOperators.toNat ∧
    (∀ above node, Expr.Path e above node →
      above.length < options.maxDepth.toNat + options.maxOperators.toNat ∧
      above.countP Expr.isNegation + 2 * above.countP Expr.isCall + 1 ≤ options.maxDepth.toNat) ∧
    e.operatorCount ≤ options.maxOperators.toNat ∧
    ∀ (σ : Type) (source : Source σ) (stuck : Expr → Metered σ Value),
      source.level^[options.maxDepth.toNat + options.maxOperators.toNat] stuck e =
        source.evaluate e := by
  obtain ⟨depth, phrase, deep, operators⟩ := parse_eq_ok_iff.mp parses
  have height := phrase.height_le
  have bounded : e.height ≤ options.maxDepth.toNat + options.maxOperators.toNat := by omega
  refine ⟨bounded, fun above node path => ⟨?_, ?_⟩, operators,
    fun σ source stuck => Source.iterate_level_eq_evaluate stuck bounded⟩
  · exact Nat.lt_of_lt_of_le path.length_lt_height bounded
  · have inside : above.countP Expr.isNegation + 2 * above.countP Expr.isCall ≤ depth :=
      phrase.levels_le path
    omega

theorem Formula.height_of_signs_and_calls :
    let options : Options := ⟨.generic, 7, 2, 0⟩
    let tree : Expr := .unary .negate (.call "SUM" [.unary .percent (.name "a"),
      .unary .negate (.binary .power (.name "b") (.name "c"))])
    options.parse "=-SUM(a%,-(b^c))" = .ok tree ∧
    tree.height ≤ 7 + 2 ∧
    (∀ above node, Expr.Path tree above node →
      above.length < 7 + 2 ∧
      above.countP Expr.isNegation + 2 * above.countP Expr.isCall + 1 ≤ 7) ∧
    tree.operatorCount ≤ 2 ∧
    ∀ (σ : Type) (source : Source σ) (stuck : Expr → Metered σ Value),
      source.level^[7 + 2] stuck tree = source.evaluate tree := by
  intro options tree
  have parses : options.parse "=-SUM(a%,-(b^c))" = .ok tree := by cbv
  exact ⟨parses, height_bounded parses⟩

end Spreadsheet
