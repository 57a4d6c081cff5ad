import Spreadsheet.Proofs.Formula.Case
import Spreadsheet.Proofs.Formula.Parse

/-! Trees of formulas in either case. Only bare names keep the case they were written in. -/

namespace Spreadsheet.Formula

open Spreadsheet.Text

mutual

/-- A tree with its bare names in upper case. -/
def Expr.upperNames : Expr → Expr
  | .name spelling => .name (.ofList (upperAscii spelling.toList))
  | .binary op left right => .binary op left.upperNames right.upperNames
  | .unary op operand => .unary op operand.upperNames
  | .call function arguments => .call function (Expr.upperNamesAll arguments)
  | tree => tree

def Expr.upperNamesAll : List Expr → List Expr
  | [] => []
  | first :: others => first.upperNames :: Expr.upperNamesAll others

end

namespace Expr

mutual

theorem operatorCount_upperNames : (e : Expr) → e.upperNames.operatorCount = e.operatorCount
  | .number _ | .text _ | .boolean _ | .cell _ | .range _ | .name _ => rfl
  | .binary _ left right => by
      rw [upperNames, operatorCount, operatorCount, operatorCount_upperNames left,
        operatorCount_upperNames right]
  | .unary .negate operand => operatorCount_upperNames operand
  | .unary .percent operand => congrArg (· + 1) (operatorCount_upperNames operand)
  | .call _ arguments => operatorCountAll_upperNames arguments

theorem operatorCountAll_upperNames : (es : List Expr) →
    operatorCountAll (upperNamesAll es) = operatorCountAll es
  | [] => rfl
  | first :: others => by
      rw [upperNamesAll, operatorCountAll, operatorCountAll, operatorCount_upperNames first,
        operatorCountAll_upperNames others]

end

theorem eq_cell_of_upperNames {e : Expr} {address : Address}
    (same : e.upperNames = Expr.upperNames (.cell address)) : e = .cell address := by
  cases e with
  | cell => exact same
  | _ => cases same

end Expr

namespace Token

def isSpelled : Token → Bool
  | .name _ | .reference _ | .invalid _ => true
  | _ => false

variable {token other : Token}

theorem eq_of_upper (plain : other.isSpelled = false) (same : token.upper = other.upper) :
    token = other := by
  have kept : other.upper = other := by
    cases other with
    | name | reference | invalid => cases plain
    | _ => rfl
  rw [kept] at same
  cases token with
  | name | reference => rw [← same] at plain; cases plain
  | invalid fault => cases fault <;> (rw [← same] at plain; cases plain)
  | _ => exact same

theorem eq_name_of_upper {spelling : String} (same : token.upper = Token.upper (.name spelling)) :
    ∃ spelling', token = .name spelling' ∧
      upperAscii spelling'.toList = upperAscii spelling.toList := by
  cases token with
  | name spelling' => exact ⟨spelling', rfl, String.ofList_injective (Token.name.inj same)⟩
  | invalid fault => cases fault <;> cases same
  | _ => cases same

theorem eq_reference_of_upper {spelling : String}
    (same : token.upper = Token.upper (.reference spelling)) :
    ∃ spelling', token = .reference spelling' ∧
      upperAscii spelling'.toList = upperAscii spelling.toList := by
  cases token with
  | reference spelling' =>
      exact ⟨spelling', rfl, String.ofList_injective (Token.reference.inj same)⟩
  | invalid fault => cases fault <;> cases same
  | _ => cases same

end Token

/-- Lists of tokens that differ in the spelling of tokens only. -/
def Respelled (tokens others : List Token) : Prop :=
  tokens.map Token.upper = others.map Token.upper

namespace Respelled

variable {tokens left right : List Token}

theorem nil (respelled : Respelled tokens []) : tokens = [] := List.map_eq_nil_iff.mp respelled

theorem cons {token : Token} (respelled : Respelled tokens (token :: right)) :
    ∃ token' right', tokens = token' :: right' ∧ token'.upper = token.upper ∧
      Respelled right' right := List.map_eq_cons_iff.mp respelled

theorem append (respelled : Respelled tokens (left ++ right)) :
    ∃ left' right', tokens = left' ++ right' ∧ Respelled left' left ∧ Respelled right' right := by
  unfold Respelled at respelled
  rw [List.map_append] at respelled
  exact List.map_eq_append_iff.mp respelled

theorem mark {mark : Mark} (respelled : Respelled tokens (.mark mark :: right)) :
    ∃ right', tokens = .mark mark :: right' ∧ Respelled right' right := by
  obtain ⟨token, right', rfl, same, rest⟩ := respelled.cons
  exact ⟨right', by rw [Token.eq_of_upper rfl same], rest⟩

theorem single {token : Token} (respelled : Respelled tokens [token]) :
    ∃ token', tokens = [token'] ∧ token'.upper = token.upper := by
  obtain ⟨token', rest, rfl, same, none⟩ := respelled.cons
  exact ⟨token', by rw [none.nil], same⟩

end Respelled

/-- A phrase that reads as the tree of another one but for the case of bare names. -/
structure Rereads (tier : Tier) (depth : Nat) (tokens : List Token) (e : Expr) (e' : Expr) :
    Prop where
  phrase : Derives tier depth tokens e'
  same : e'.upperNames = e.upperNames

namespace Reading

/-- Arguments of a call that differ in spelling from those of another one. -/
theorem respelled_behind {arguments : List Reading} {tokens : List Token}
    (phrases : ∀ argument ∈ arguments, ∀ tokens, Respelled tokens argument.tokens →
      ∃ e, Rereads .comparison argument.depth tokens argument.tree e)
    (respelled : Respelled tokens
      (arguments.flatMap fun argument => .mark .comma :: argument.tokens)) :
    ∃ others : List Reading,
      tokens = (others.flatMap fun other => .mark .comma :: other.tokens) ∧
      (∀ other ∈ others, Derives .comparison other.depth other.tokens other.tree) ∧
      deepest others = deepest arguments ∧
      Expr.upperNamesAll (others.map tree) = Expr.upperNamesAll (arguments.map tree) := by
  induction arguments generalizing tokens with
  | nil => exact ⟨[], respelled.nil, nofun, rfl, rfl⟩
  | cons first arguments ih =>
      rw [List.flatMap_cons, List.cons_append] at respelled
      obtain ⟨_, rfl, marked⟩ := respelled.mark
      obtain ⟨front, behind, rfl, inner, later⟩ := marked.append
      obtain ⟨e, phrase, same⟩ := phrases first (by simp) front inner
      obtain ⟨others, rfl, derived, deep, trees⟩ :=
        ih (fun argument member => phrases argument (by simp [member])) later
      refine ⟨⟨first.depth, front, e⟩ :: others, rfl, ?_, ?_, ?_⟩
      · exact List.forall_mem_cons.mpr ⟨phrase, derived⟩
      · exact congrArg (max (first.depth + 1)) deep
      · exact congrArg₂ List.cons same trees

theorem respelled_separated {arguments : List Reading} {tokens : List Token}
    (phrases : ∀ argument ∈ arguments, ∀ tokens, Respelled tokens argument.tokens →
      ∃ e, Rereads .comparison argument.depth tokens argument.tree e)
    (respelled : Respelled tokens (separated arguments)) :
    ∃ others : List Reading, tokens = separated others ∧
      (∀ other ∈ others, Derives .comparison other.depth other.tokens other.tree) ∧
      deepest others = deepest arguments ∧
      Expr.upperNamesAll (others.map tree) = Expr.upperNamesAll (arguments.map tree) := by
  cases arguments with
  | nil => exact ⟨[], respelled.nil, nofun, rfl, rfl⟩
  | cons first arguments =>
      rw [separated_cons] at respelled
      obtain ⟨front, behind, rfl, inner, later⟩ := respelled.append
      obtain ⟨e, phrase, same⟩ := phrases first (by simp) front inner
      obtain ⟨others, rfl, derived, deep, trees⟩ :=
        respelled_behind (fun argument member => phrases argument (by simp [member])) later
      refine ⟨⟨first.depth, front, e⟩ :: others, (separated_cons ⟨_, _, e⟩ others).symm, ?_, ?_, ?_⟩
      · exact List.forall_mem_cons.mpr ⟨phrase, derived⟩
      · exact congrArg (max (first.depth + 1)) deep
      · exact congrArg₂ List.cons same trees

end Reading

/-- Tokens in another case are a phrase of the same shape. -/
theorem Derives.respelled {tier : Tier} {depth : Nat} {tokens : List Token} {e : Expr}
    (phrase : Derives tier depth tokens e) {others : List Token}
    (respelled : Respelled others tokens) : ∃ e', Rereads tier depth others e e' := by
  induction phrase generalizing others with
  | tighter step _ ih =>
      obtain ⟨e', phrase, same⟩ := ih respelled
      exact ⟨e', .tighter step phrase, same⟩
  | join joins step _ _ ihLeft ihRight =>
      obtain ⟨front, _, rfl, left, later⟩ := respelled.append
      obtain ⟨_, rfl, right⟩ := later.mark
      obtain ⟨a, aPhrase, aSame⟩ := ihLeft left
      obtain ⟨b, bPhrase, bSame⟩ := ihRight right
      exact ⟨_, .join joins step aPhrase bPhrase, congrArg₂ (Expr.binary _) aSame bSame⟩
  | power _ _ ihBase ih =>
      obtain ⟨front, _, rfl, left, later⟩ := respelled.append
      obtain ⟨_, rfl, right⟩ := later.mark
      obtain ⟨a, aPhrase, aSame⟩ := ihBase left
      obtain ⟨b, bPhrase, bSame⟩ := ih right
      exact ⟨_, .power aPhrase bPhrase, congrArg₂ (Expr.binary _) aSame bSame⟩
  | minus _ ih =>
      obtain ⟨_, rfl, later⟩ := respelled.mark
      obtain ⟨e', phrase, same⟩ := ih later
      exact ⟨_, .minus phrase, congrArg (Expr.unary _) same⟩
  | plus _ ih =>
      obtain ⟨_, rfl, later⟩ := respelled.mark
      obtain ⟨e', phrase, same⟩ := ih later
      exact ⟨_, .plus phrase, same⟩
  | percent _ ih =>
      obtain ⟨front, _, rfl, left, later⟩ := respelled.append
      obtain ⟨_, rfl, ends⟩ := later.mark
      obtain ⟨e', phrase, same⟩ := ih left
      rw [ends.nil]
      exact ⟨_, .percent phrase, congrArg (Expr.unary _) same⟩
  | range _ _ ihFirst ihLast =>
      obtain ⟨front, _, rfl, left, later⟩ := respelled.append
      obtain ⟨_, rfl, right⟩ := later.mark
      obtain ⟨a, aPhrase, aSame⟩ := ihFirst left
      obtain ⟨b, bPhrase, bSame⟩ := ihLast right
      rw [Expr.eq_cell_of_upperNames aSame] at aPhrase
      rw [Expr.eq_cell_of_upperNames bSame] at bPhrase
      exact ⟨_, .range aPhrase bPhrase, rfl⟩
  | number n =>
      obtain ⟨token, rfl, same⟩ := respelled.single
      rw [Token.eq_of_upper rfl same]
      exact ⟨_, .number n, rfl⟩
  | text s =>
      obtain ⟨token, rfl, same⟩ := respelled.single
      rw [Token.eq_of_upper rfl same]
      exact ⟨_, .text s, rfl⟩
  | boolean b =>
      obtain ⟨token, rfl, same⟩ := respelled.single
      rw [Token.eq_of_upper rfl same]
      exact ⟨_, .boolean b, rfl⟩
  | name spelling =>
      obtain ⟨token, rfl, same⟩ := respelled.single
      obtain ⟨spelling', rfl, upper⟩ := Token.eq_name_of_upper same
      exact ⟨_, .name spelling', by rw [Expr.upperNames, Expr.upperNames, upper]⟩
  | cell names =>
      obtain ⟨token, rfl, same⟩ := respelled.single
      obtain ⟨spelling', rfl, upper⟩ := Token.eq_reference_of_upper same
      exact ⟨_, .cell (Address.read_congr upper.symm names), rfl⟩
  | parentheses _ ih =>
      rw [List.cons_append] at respelled
      obtain ⟨_, rfl, opened⟩ := respelled.mark
      obtain ⟨front, _, rfl, inner, closed⟩ := opened.append
      obtain ⟨_, rfl, ends⟩ := closed.mark
      obtain ⟨e', phrase, same⟩ := ih inner
      rw [ends.nil]
      exact ⟨_, .parentheses phrase, same⟩
  | call function arguments _ ih =>
      rw [List.cons_append, List.cons_append] at respelled
      obtain ⟨token, _, rfl, same, called⟩ := respelled.cons
      obtain ⟨function', rfl, upper⟩ := Token.eq_name_of_upper same
      obtain ⟨_, rfl, opened⟩ := called.mark
      obtain ⟨front, _, rfl, inner, closed⟩ := opened.append
      obtain ⟨_, rfl, ends⟩ := closed.mark
      obtain ⟨others, rfl, phrases, deep, trees⟩ :=
        Reading.respelled_separated (fun argument member tokens => ih argument member) inner
      rw [ends.nil, ← deep]
      refine ⟨_, .call function' others phrases, ?_⟩
      rw [Expr.upperNames, Expr.upperNames, upper, trees]

/-- A formula in another spelling is read as the same tree but for the case of bare names. -/
theorem parse_respelled {formula other : String}
    (respelled : Respelled (tokens (body other.toList)) (tokens (body formula.toList)))
    {options : Options} {e : Expr} (parses : options.parse formula = .ok e) :
    ∃ e', options.parse other = .ok e' ∧ e'.upperNames = e.upperNames := by
  obtain ⟨depth, phrase, deep, count⟩ := parse_eq_ok_iff.mp parses
  obtain ⟨e', phrase', same⟩ := phrase.respelled respelled
  have counts : e'.operatorCount = e.operatorCount := by
    rw [← Expr.operatorCount_upperNames, same, Expr.operatorCount_upperNames]
  exact ⟨e', parse_eq_ok_iff.mpr ⟨depth, phrase', deep, counts ▸ count⟩, same⟩

end Spreadsheet.Formula
