import Spreadsheet.Proofs.Formula.Grammar
import Spreadsheet.Proofs.Formula.Reader

/-! What the grammar derives, readers find, exactly as far as the limits allow. -/

namespace Spreadsheet.Formula

open Spreadsheet.Text
open Reader

/-! Where a phrase ends: no mark follows that a tier up to its own would take in. -/

def Tier.rank : Tier → Nat
  | .primary => 0
  | .range => 1
  | .percent => 2
  | .sign => 3
  | .power => 4
  | .multiplication => 5
  | .addition => 6
  | .concatenation => 7
  | .comparison => 8

/-- Rank of the tightest phrases that go on over a mark. -/
def Mark.rank? : Mark → Option Nat
  | .leftParen => some 0
  | .colon => some 1
  | .percent => some 2
  | .caret => some 4
  | .comma => none
  | .rightParen => none
  | mark => mark.join?.map fun (tier, _) => tier.rank

def Ends (tier : Tier) (rest : List Token) : Prop :=
  ∀ mark rank, rest.head? = some (.mark mark) → mark.rank? = some rank → tier.rank < rank

theorem Ends.nil (tier : Tier) : Ends tier [] := by
  intro mark rank head
  cases head

theorem Ends.cons {tier : Tier} {mark : Mark} {rest : List Token}
    (beyond : ∀ rank, mark.rank? = some rank → tier.rank < rank) :
    Ends tier (.mark mark :: rest) := by
  intro mark' rank head
  cases head
  exact beyond rank

theorem Ends.mono {tier inner : Tier} {rest : List Token} (ends : Ends tier rest)
    (le : inner.rank ≤ tier.rank) : Ends inner rest :=
  fun mark rank head ranks => Nat.lt_of_le_of_lt le (ends mark rank head ranks)

theorem Ends.head?_ne {tier : Tier} {rest : List Token} (ends : Ends tier rest) (mark : Mark)
    {rank : Nat} (ranks : mark.rank? = some rank) (le : rank ≤ tier.rank) :
    rest.head? ≠ some (.mark mark) :=
  fun head => Nat.not_lt.mpr le (ends mark rank head ranks)

theorem Tier.rank_tighter {tier inner : Tier} (step : tier.tighter? = some inner) :
    inner.rank + 1 = tier.rank := by
  cases tier <;> cases step <;> rfl

theorem Mark.rank?_of_join? {mark : Mark} {tier : Tier} {op : BinaryOp}
    (joins : mark.join? = some (tier, op)) : mark.rank? = some tier.rank := by
  cases mark <;> cases joins <;> rfl

/-! Readers by tier. Those of tiers that group from the left can be resumed after a phrase. -/

def Tier.reader (limits : Limits) (bound : Nat) (tier : Tier) : Reader Expr :=
  let phrase := readPhrase limits bound
  match tier with
  | .primary => readPrimary limits bound phrase
  | .range => readRange limits bound phrase
  | .percent => do percentsAfter limits bound (← readRange limits bound phrase)
  | .sign => readOperand limits bound phrase
  | .power => readPower limits bound phrase
  | .multiplication => chain limits bound multiplication? (readPower limits bound phrase)
  | .addition =>
    chain limits bound addition? <|
      chain limits bound multiplication? (readPower limits bound phrase)
  | .concatenation =>
    chain limits bound concatenation? <|
      chain limits bound addition? <|
        chain limits bound multiplication? (readPower limits bound phrase)
  | .comparison =>
    chain limits bound comparison? <|
      chain limits bound concatenation? <|
        chain limits bound addition? <|
          chain limits bound multiplication? (readPower limits bound phrase)

theorem readPhrase_expression (limits : Limits) (bound : Nat) :
    readPhrase limits (bound + 1) .expression =
      nested limits (Tier.comparison.reader limits bound) := rfl

theorem readPhrase_power (limits : Limits) (bound : Nat) :
    readPhrase limits (bound + 1) .power = Tier.power.reader limits bound := rfl

theorem readPhrase_operand (limits : Limits) (bound : Nat) :
    readPhrase limits (bound + 1) .operand = Tier.sign.reader limits bound := rfl

/-- What the reader of a tier does after a phrase `e` of the tier. -/
def Tier.resume (limits : Limits) (bound : Nat) (tier : Tier) (more : Nat) (e : Expr) :
    Reader Expr :=
  match tier with
  | .percent => percentsAfter limits more e
  | .multiplication =>
    chainAfter limits multiplication? (Tier.power.reader limits bound) more e
  | .addition => chainAfter limits addition? (Tier.multiplication.reader limits bound) more e
  | .concatenation =>
    chainAfter limits concatenation? (Tier.addition.reader limits bound) more e
  | .comparison =>
    chainAfter limits comparison? (Tier.concatenation.reader limits bound) more e
  | _ => return e

/-- The tier of the phrases after which a reader can be resumed. -/
def Tier.pause : Tier → Tier
  | .percent => .range
  | .multiplication => .power
  | .addition => .multiplication
  | .concatenation => .addition
  | .comparison => .concatenation
  | tier => tier

theorem Tier.rank_pause (tier : Tier) : tier.pause.rank ≤ tier.rank := by
  cases tier <;> decide

variable {limits : Limits}

/-- Wherever a phrase may stand, the reader of its tier takes its tokens, as far as the limits
allow its levels and operators. -/
def Reads (limits : Limits) (tier : Tier) (depth : Nat) (tokens : List Token) (e : Expr) : Prop :=
  ∀ ⦃bound level count : Nat⦄ ⦃rest : List Token⦄,
    (tokens ++ rest).length ≤ bound → level ≤ limits.depth → count ≤ limits.operators →
    Ends tier rest →
    accepted (tier.reader limits bound) ⟨tokens ++ rest, level, count⟩ =
      if level + depth ≤ limits.depth ∧ count + e.operatorCount ≤ limits.operators then
        some (e, ⟨rest, level, count + e.operatorCount⟩)
      else none

/-- The same up to the point where the reader is resumed, with repetitions enough for the rest. -/
def Resumes (limits : Limits) (tier : Tier) (depth : Nat) (tokens : List Token) (e : Expr) :
    Prop :=
  ∀ ⦃bound level count : Nat⦄ ⦃rest : List Token⦄,
    (tokens ++ rest).length ≤ bound → level ≤ limits.depth → count ≤ limits.operators →
    Ends tier.pause rest →
    ∃ more, rest.length ≤ more ∧
      accepted (tier.reader limits bound) ⟨tokens ++ rest, level, count⟩ =
        if level + depth ≤ limits.depth ∧ count + e.operatorCount ≤ limits.operators then
          accepted (tier.resume limits bound more e) ⟨rest, level, count + e.operatorCount⟩
        else none

theorem operator?_eq_none {tier : Tier} {rest : List Token} (ends : Ends tier rest) :
    rest.head?.bind tier.operator? = none := by
  cases head : rest.head? with
  | none => rfl
  | some token =>
      rw [Option.bind_some]
      cases token with
      | mark mark =>
          have beyond := ends mark
          cases tier <;> cases mark <;> first | rfl | exact absurd (beyond _ head rfl) (by decide)
      | _ => cases tier <;> rfl

theorem accepted_chainAfter_of_ends {operators : Token → Option BinaryOp} (operand : Reader Expr)
    (more : Nat) (e : Expr) {cursor : Cursor} (none : cursor.rest.head?.bind operators = none) :
    accepted (chainAfter limits operators operand more e) cursor = some (e, cursor) := by
  cases more with
  | zero => rfl
  | succ more =>
      simp only [chainAfter, accepted_bind, accepted_peek, Option.bind_some]
      rw [none]
      rfl

theorem accepted_percentsAfter_of_ends (more : Nat) (e : Expr) {cursor : Cursor}
    (ends : Ends .percent cursor.rest) :
    accepted (percentsAfter limits more e) cursor = some (e, cursor) := by
  cases more with
  | zero => rfl
  | succ more =>
      simp only [percentsAfter, accepted_bind, accepted_peek, Option.bind_some]
      rw [if_neg (ends.head?_ne .percent rfl (by decide))]
      rfl

theorem accepted_resume_of_ends {tier : Tier} (bound more : Nat) (e : Expr) {cursor : Cursor}
    (ends : Ends tier cursor.rest) :
    accepted (tier.resume limits bound more e) cursor = some (e, cursor) := by
  cases tier with
  | percent => exact accepted_percentsAfter_of_ends more e ends
  | multiplication | addition | concatenation | comparison =>
      exact accepted_chainAfter_of_ends _ more e (operator?_eq_none ends)
  | _ => rfl

theorem Resumes.reads {tier : Tier} {depth : Nat} {tokens : List Token} {e : Expr}
    (resumes : Resumes limits tier depth tokens e) : Reads limits tier depth tokens e := by
  intro bound level count rest fits shallow few ends
  obtain ⟨more, -, reads⟩ := resumes fits shallow few (ends.mono tier.rank_pause)
  rw [reads, accepted_resume_of_ends bound more e ends]

theorem Reads.resumes {tier : Tier} {depth : Nat} {tokens : List Token} {e : Expr}
    (settled : tier.pause = tier) (reads : Reads limits tier depth tokens e) :
    Resumes limits tier depth tokens e := by
  intro bound level count rest fits shallow few ends
  rw [settled] at ends
  refine ⟨rest.length, Nat.le_refl _, ?_⟩
  rw [reads fits shallow few ends, accepted_resume_of_ends bound _ e ends]

theorem Reads.resumes_tighter {tier inner : Tier} {depth : Nat} {tokens : List Token} {e : Expr}
    (step : tier.tighter? = some inner) (pauses : tier.pause = inner)
    (reads : Reads limits inner depth tokens e) : Resumes limits tier depth tokens e := by
  intro bound level count rest fits shallow few ends
  rw [pauses] at ends
  refine ⟨bound, ?_, ?_⟩
  · rw [List.length_append] at fits
    omega
  · have begins : tier.reader limits bound =
        (do tier.resume limits bound bound (← inner.reader limits bound)) := by
      cases tier <;> cases step <;> first | rfl | cases pauses
    rw [begins, accepted_bind, reads fits shallow few ends]
    split <;> rfl

theorem resume_of_join {tier inner : Tier} {mark : Mark} {op : BinaryOp} {bound : Nat}
    (joins : mark.join? = some (tier, op)) (step : tier.tighter? = some inner) :
    tier.resume limits bound =
      chainAfter limits tier.operator? (inner.reader limits bound) := by
  cases mark <;> cases joins <;> cases step <;> rfl

theorem bind_guard {p : Prop} [Decidable p] (a : α) (f : α → Option β) :
    (if p then some a else none).bind f = if p then f a else none := by
  split <;> rfl

theorem map_guard {p : Prop} [Decidable p] (a : Option α) (f : α → β) :
    (if p then a else none).map f = if p then a.map f else none := by
  split <;> rfl

theorem guard_guard {p q r : Prop} [Decidable p] [Decidable q] [Decidable r]
    (both : p ∧ q ↔ r) (a : Option α) :
    (if p then if q then a else none else none) = if r then a else none := by
  by_cases first : p <;> by_cases second : q <;> simp [first, second, ← both]

theorem Resumes.join {tier inner : Tier} {mark : Mark} {op : BinaryOp}
    {leftDepth rightDepth : Nat} {leftTokens rightTokens : List Token} {left right : Expr}
    (joins : mark.join? = some (tier, op)) (step : tier.tighter? = some inner)
    (leftResumes : Resumes limits tier leftDepth leftTokens left)
    (rightReads : Reads limits inner rightDepth rightTokens right) :
    Resumes limits tier (max leftDepth rightDepth) (leftTokens ++ .mark mark :: rightTokens)
      (.binary op left right) := by
  intro bound level count rest fits shallow few ends
  have pauses : tier.pause = inner := by
    cases mark <;> cases joins <;> cases step <;> rfl
  rw [pauses] at ends
  have beyond : Ends tier.pause (.mark mark :: (rightTokens ++ rest)) := by
    apply Ends.cons
    intro rank ranks
    rw [Mark.rank?_of_join? joins] at ranks
    cases ranks
    rw [pauses]
    have := Tier.rank_tighter step
    omega
  rw [List.append_assoc, List.cons_append] at fits ⊢
  obtain ⟨more, enough, reads⟩ := leftResumes fits shallow few beyond
  simp only [List.length_append, List.length_cons] at fits enough
  obtain ⟨more, rfl⟩ : ∃ fewer, more = fewer + 1 := ⟨more - 1, by omega⟩
  refine ⟨more, by omega, ?_⟩
  have operates : tier.operator? (.mark mark) = some op :=
    Tier.operator?_eq_some_iff.mpr ⟨mark, rfl, joins⟩
  rw [reads, resume_of_join joins step]
  have size : (Expr.binary op left right).operatorCount =
      left.operatorCount + right.operatorCount + 1 := rfl
  simp only [chainAfter, accepted_bind, accepted_peek, Option.bind_some, List.head?_cons,
    operates, accepted_operator, List.tail_cons]
  by_cases counted : count + left.operatorCount + 1 ≤ limits.operators
  · have total : count + left.operatorCount + 1 + right.operatorCount =
        count + (Expr.binary op left right).operatorCount := by omega
    rw [if_pos counted, Option.bind_some,
      rightReads (by simp only [List.length_append]; omega) shallow counted ends, bind_guard,
      total]
    exact guard_guard (by omega) _
  · rw [if_neg counted, Option.bind_none, ite_self, if_neg (by omega)]

theorem Resumes.percent {depth : Nat} {tokens : List Token} {e : Expr}
    (resumes : Resumes limits .percent depth tokens e) :
    Resumes limits .percent depth (tokens ++ [.mark .percent]) (.unary .percent e) := by
  intro bound level count rest fits shallow few ends
  have beyond : Ends .range (.mark .percent :: rest) := by
    apply Ends.cons
    intro rank ranks
    cases ranks
    decide
  rw [List.append_assoc, List.singleton_append] at fits ⊢
  obtain ⟨more, enough, reads⟩ := resumes fits shallow few beyond
  rw [List.length_cons] at enough
  obtain ⟨more, rfl⟩ : ∃ fewer, more = fewer + 1 := ⟨more - 1, by omega⟩
  refine ⟨more, by omega, ?_⟩
  have total : count + e.operatorCount + 1 = count + (Expr.unary .percent e).operatorCount := rfl
  rw [reads]
  simp only [Tier.resume, percentsAfter, accepted_bind, accepted_peek, Option.bind_some,
    List.head?_cons, if_true, accepted_operator, List.tail_cons, bind_guard, total]
  exact guard_guard (by omega) _

/-- The first token of an operand without a sign. -/
def Token.opens : Token → Bool
  | .mark m => m == .leftParen
  | .invalid _ => false
  | _ => true

/-- The first token of a phrase is a sign only where signs may stand. -/
theorem Derives.begins {tier : Tier} {depth : Nat} {tokens : List Token} {e : Expr}
    (phrase : Derives tier depth tokens e) :
    ∃ token others, tokens = token :: others ∧
      (token.opens = true ∨
        Tier.sign.rank ≤ tier.rank ∧ (token = .mark .plus ∨ token = .mark .minus)) := by
  induction phrase with
  | tighter step _ ih =>
      obtain ⟨token, others, rfl, opens | ⟨high, sign⟩⟩ := ih
      · exact ⟨token, others, rfl, .inl opens⟩
      · have := Tier.rank_tighter step
        exact ⟨token, others, rfl, .inr ⟨by omega, sign⟩⟩
  | join _ _ _ _ ih _ =>
      obtain ⟨token, others, rfl, begins⟩ := ih
      exact ⟨token, _, rfl, begins⟩
  | power _ _ ih _ =>
      obtain ⟨token, others, rfl, opens | ⟨_, sign⟩⟩ := ih
      · exact ⟨token, _, rfl, .inl opens⟩
      · exact ⟨token, _, rfl, .inr ⟨by decide, sign⟩⟩
  | minus => exact ⟨_, _, rfl, .inr ⟨by decide, .inr rfl⟩⟩
  | plus => exact ⟨_, _, rfl, .inr ⟨by decide, .inl rfl⟩⟩
  | percent _ ih =>
      obtain ⟨token, others, rfl, begins⟩ := ih
      exact ⟨token, _, rfl, begins⟩
  | range _ _ ih _ =>
      obtain ⟨token, others, rfl, opens | ⟨high, _⟩⟩ := ih
      · exact ⟨token, _, rfl, .inl opens⟩
      · exact absurd high (by decide)
  | number | text | boolean | name | cell | parentheses | call =>
      exact ⟨_, _, rfl, .inl rfl⟩

theorem Reads.nested {tier : Tier} {depth bound level count : Nat} {tokens rest : List Token}
    {e : Expr} (reads : Reads limits tier depth tokens e) (fits : (tokens ++ rest).length ≤ bound)
    (few : count ≤ limits.operators) (ends : Ends tier rest) :
    accepted (nested limits (tier.reader limits bound)) ⟨tokens ++ rest, level, count⟩ =
      if level + (depth + 1) ≤ limits.depth ∧ count + e.operatorCount ≤ limits.operators then
        some (e, ⟨rest, level, count + e.operatorCount⟩)
      else none := by
  rw [accepted_nested]
  by_cases deeper : level + 1 ≤ limits.depth
  · rw [if_pos deeper, reads fits deeper few ends, Nat.add_assoc, Nat.add_comm 1]
    split <;> rfl
  · rw [if_neg deeper, if_neg (by omega)]

theorem Reads.sign_of_percent {depth : Nat} {tokens : List Token} {e : Expr}
    (phrase : Derives .percent depth tokens e) (reads : Reads limits .percent depth tokens e) :
    Reads limits .sign depth tokens e := by
  intro bound level count rest fits shallow few ends
  obtain ⟨token, others, rfl, opens | ⟨high, _⟩⟩ := phrase.begins
  · rw [← reads fits shallow few (ends.mono (by decide))]
    change accepted (readOperand limits bound (readPhrase limits bound)) _ = _
    rw [readOperand, accepted_bind, accepted_peek, Option.bind_some, List.cons_append,
      List.head?_cons]
    split
    next same => cases same; cases opens
    next same => cases same; cases opens
    next => rfl
  · exact absurd high (by decide)

theorem Reads.minus {depth : Nat} {tokens : List Token} {e : Expr}
    (reads : Reads limits .sign depth tokens e) :
    Reads limits .sign (depth + 1) (.mark .minus :: tokens) (.unary .negate e) := by
  intro bound level count rest fits shallow few ends
  rw [List.cons_append, List.length_cons] at fits
  obtain ⟨bound, rfl⟩ : ∃ fewer, bound = fewer + 1 := ⟨bound - 1, by omega⟩
  change accepted (readOperand limits (bound + 1) (readPhrase limits (bound + 1))) _ = _
  simp only [readOperand, accepted_bind, accepted_peek, accepted_advance, Option.bind_some,
    List.cons_append, List.head?_cons, List.tail_cons, readPhrase_operand]
  rw [reads.nested (Nat.le_of_succ_le_succ fits) few ends, bind_guard]
  rfl

theorem Reads.plus {depth : Nat} {tokens : List Token} {e : Expr}
    (reads : Reads limits .sign depth tokens e) :
    Reads limits .sign (depth + 1) (.mark .plus :: tokens) e := by
  intro bound level count rest fits shallow few ends
  rw [List.cons_append, List.length_cons] at fits
  obtain ⟨bound, rfl⟩ : ∃ fewer, bound = fewer + 1 := ⟨bound - 1, by omega⟩
  change accepted (readOperand limits (bound + 1) (readPhrase limits (bound + 1))) _ = _
  simp only [readOperand, accepted_bind, accepted_peek, accepted_advance, Option.bind_some,
    List.cons_append, List.head?_cons, List.tail_cons, readPhrase_operand]
  exact reads.nested (Nat.le_of_succ_le_succ fits) few ends

theorem Reads.power_of_sign {depth : Nat} {tokens : List Token} {e : Expr}
    (reads : Reads limits .sign depth tokens e) : Reads limits .power depth tokens e := by
  intro bound level count rest fits shallow few ends
  change accepted (readPower limits bound (readPhrase limits bound)) _ = _
  have base := reads fits shallow few (ends.mono (by decide))
  change accepted (readOperand limits bound (readPhrase limits bound)) _ = _ at base
  rw [readPower, accepted_bind, base, bind_guard]
  simp only [accepted_bind, accepted_peek, Option.bind_some,
    if_neg (ends.head?_ne .caret rfl (by decide)), accepted_pure]

theorem Reads.power {baseDepth depth : Nat} {baseTokens tokens : List Token} {base e : Expr}
    (baseReads : Reads limits .sign baseDepth baseTokens base)
    (reads : Reads limits .power depth tokens e) :
    Reads limits .power (max baseDepth (depth + 1)) (baseTokens ++ .mark .caret :: tokens)
      (.binary .power base e) := by
  intro bound level count rest fits shallow few ends
  have beyond : Ends .sign (.mark .caret :: (tokens ++ rest)) := by
    apply Ends.cons
    intro rank ranks
    cases ranks
    decide
  have size : (Expr.binary .power base e).operatorCount =
      base.operatorCount + e.operatorCount + 1 := rfl
  rw [List.append_assoc, List.cons_append] at fits ⊢
  have reading := baseReads fits shallow few beyond
  rw [List.length_append, List.length_cons] at fits
  obtain ⟨bound, rfl⟩ : ∃ fewer, bound = fewer + 1 := ⟨bound - 1, by omega⟩
  change accepted (readOperand limits (bound + 1) (readPhrase limits (bound + 1))) _ = _
    at reading
  change accepted (readPower limits (bound + 1) (readPhrase limits (bound + 1))) _ = _
  rw [readPower, accepted_bind, reading, bind_guard]
  simp only [accepted_bind, accepted_peek, Option.bind_some, List.head?_cons, if_true,
    accepted_operator, List.tail_cons, readPhrase_power]
  by_cases counted : count + base.operatorCount + 1 ≤ limits.operators
  · have total : count + base.operatorCount + 1 + e.operatorCount =
        count + (Expr.binary .power base e).operatorCount := by omega
    rw [if_pos counted, Option.bind_some, reads.nested (by omega) counted ends, bind_guard,
      total]
    exact guard_guard (by omega) _
  · rw [if_neg counted, Option.bind_none, ite_self, if_neg (by omega)]

theorem Reads.range_of_primary {depth : Nat} {tokens : List Token} {e : Expr}
    (reads : Reads limits .primary depth tokens e) : Reads limits .range depth tokens e := by
  intro bound level count rest fits shallow few ends
  have first := reads fits shallow few (ends.mono (by decide))
  change accepted (readPrimary limits bound (readPhrase limits bound)) _ = _ at first
  change accepted (readRange limits bound (readPhrase limits bound)) _ = _
  rw [readRange, accepted_bind, first, bind_guard]
  simp only [accepted_bind, accepted_peek, Option.bind_some,
    if_neg (ends.head?_ne .colon rfl (by decide)), accepted_pure]

theorem Reads.range {firstDepth lastDepth : Nat} {firstTokens lastTokens : List Token}
    {first last : Address} (firstReads : Reads limits .primary firstDepth firstTokens (.cell first))
    (lastReads : Reads limits .primary lastDepth lastTokens (.cell last)) :
    Reads limits .range (max firstDepth lastDepth) (firstTokens ++ .mark .colon :: lastTokens)
      (.range (.spanning first last)) := by
  intro bound level count rest fits shallow few ends
  have beyond : Ends .primary (.mark .colon :: (lastTokens ++ rest)) := by
    apply Ends.cons
    intro rank ranks
    cases ranks
    decide
  rw [List.append_assoc, List.cons_append] at fits ⊢
  -- A cell holds no operators, so both counts stay as they are.
  have reading : accepted (readPrimary limits bound (readPhrase limits bound))
      ⟨firstTokens ++ .mark .colon :: (lastTokens ++ rest), level, count⟩ =
        if level + firstDepth ≤ limits.depth ∧ count ≤ limits.operators then
          some (.cell first, ⟨.mark .colon :: (lastTokens ++ rest), level, count⟩)
        else none :=
    firstReads fits shallow few beyond
  rw [List.length_append, List.length_cons] at fits
  have readingLast : accepted (readPrimary limits bound (readPhrase limits bound))
      ⟨lastTokens ++ rest, level, count⟩ =
        if level + lastDepth ≤ limits.depth ∧ count ≤ limits.operators then
          some (.cell last, ⟨rest, level, count⟩)
        else none :=
    lastReads (by omega) shallow few (ends.mono (by decide))
  change accepted (readRange limits bound (readPhrase limits bound)) _ =
    if level + max firstDepth lastDepth ≤ limits.depth ∧ count ≤ limits.operators then
      some (.range (.spanning first last), ⟨rest, level, count⟩)
    else none
  rw [readRange, accepted_bind, reading, bind_guard]
  simp only [accepted_bind, accepted_peek, accepted_advance, Option.bind_some, List.head?_cons,
    if_true, List.tail_cons, readingLast, bind_guard, accepted_pure]
  exact guard_guard (by omega) _

theorem Reads.single {token : Token} {e : Expr} (plain : e.operatorCount = 0)
    (reads : ∀ (bound : Nat) (cursor : Cursor), cursor.rest.head? = some token →
      Ends .primary cursor.rest.tail →
      accepted (readPrimary limits bound (readPhrase limits bound)) cursor =
        some (e, { cursor with rest := cursor.rest.tail })) :
    Reads limits .primary 0 [token] e := by
  intro bound level count rest fits shallow few ends
  change accepted (readPrimary limits bound (readPhrase limits bound)) _ = _
  rw [reads bound ⟨[token] ++ rest, level, count⟩ rfl ends, plain]
  exact (if_pos ⟨shallow, few⟩).symm

theorem Reads.name (spelling : String) :
    Reads limits .primary 0 [.name spelling] (.name spelling) := by
  apply Reads.single rfl
  intro bound cursor head ends
  simp only [readPrimary, accepted_bind, accepted_next, accepted_peek, Option.bind_some, head,
    if_neg (ends.head?_ne .leftParen rfl (by decide)), accepted_pure]

theorem Reads.cell {spelling : String} {address : Address}
    (names : Address.read spelling.toList = .ok address) :
    Reads limits .primary 0 [.reference spelling] (.cell address) := by
  apply Reads.single rfl
  intro bound cursor head _
  simp only [readPrimary, accepted_bind, accepted_next, Option.bind_some, head, readCell, names,
    accepted_pure]

theorem Reads.parentheses {depth : Nat} {tokens : List Token} {e : Expr}
    (reads : Reads limits .comparison depth tokens e) :
    Reads limits .primary (depth + 1) (.mark .leftParen :: tokens ++ [.mark .rightParen]) e := by
  intro bound level count rest fits shallow few ends
  have beyond : Ends .comparison (.mark .rightParen :: rest) := Ends.cons nofun
  simp only [List.cons_append, List.append_assoc, List.nil_append, List.length_cons] at fits ⊢
  obtain ⟨bound, rfl⟩ : ∃ fewer, bound = fewer + 1 := ⟨bound - 1, by omega⟩
  change accepted (readPrimary limits (bound + 1) (readPhrase limits (bound + 1))) _ = _
  simp only [readPrimary, accepted_bind, accepted_next, Option.bind_some, List.head?_cons,
    List.tail_cons, readPhrase_expression]
  rw [reads.nested (by omega) few beyond, bind_guard]
  simp only [accepted_expect, List.head?_cons, if_true, List.tail_cons, Option.bind_some,
    accepted_pure]

/-! Arguments behind the first of a call, up to its closing parenthesis. -/

theorem Ends.arguments (others : List Reading) (rest : List Token) :
    Ends .comparison
      ((others.flatMap fun other => .mark .comma :: other.tokens) ++
        .mark .rightParen :: rest) := by
  cases others with
  | nil => exact Ends.cons nofun
  | cons first others => exact Ends.cons nofun

theorem Reading.length_le_flatMap (readings : List Reading) :
    readings.length ≤
      (readings.flatMap fun reading => .mark .comma :: reading.tokens).length := by
  induction readings with
  | nil => exact Nat.le_refl 0
  | cons first others ih =>
      simp only [List.flatMap_cons, List.length_append, List.length_cons]
      omega

theorem accepted_readArguments {readings : List Reading} {rest : List Token} {bound level : Nat}
    (reads : ∀ reading ∈ readings,
      Reads limits .comparison reading.depth reading.tokens reading.tree)
    (fits : ((readings.flatMap fun reading => .mark .comma :: reading.tokens) ++
      .mark .rightParen :: rest).length ≤ bound)
    (shallow : level ≤ limits.depth) {more count : Nat} (enough : readings.length ≤ more)
    (few : count ≤ limits.operators) :
    accepted (readArguments (readPhrase limits (bound + 1)) more)
        ⟨(readings.flatMap fun reading => .mark .comma :: reading.tokens) ++
          .mark .rightParen :: rest, level, count⟩ =
      if level + Reading.deepest readings ≤ limits.depth ∧
          count + Expr.operatorCountAll (readings.map Reading.tree) ≤ limits.operators then
        some (readings.map Reading.tree, ⟨.mark .rightParen :: rest, level,
          count + Expr.operatorCountAll (readings.map Reading.tree)⟩)
      else none := by
  induction readings generalizing more count with
  | nil =>
      have allowed : level + Reading.deepest [] ≤ limits.depth ∧
          count + Expr.operatorCountAll ([].map Reading.tree) ≤ limits.operators :=
        ⟨shallow, few⟩
      rw [if_pos allowed]
      cases more <;> rfl
  | cons first others ih =>
      obtain ⟨more, rfl⟩ : ∃ fewer, more = fewer + 1 :=
        ⟨more - 1, by rw [List.length_cons] at enough; omega⟩
      have firstReads := reads first (by simp)
      have othersRead := ih fun other member => reads other (by simp [member])
      have ends := Ends.arguments others rest
      have deepest : Reading.deepest (first :: others) =
          max (first.depth + 1) (Reading.deepest others) := rfl
      have size : Expr.operatorCountAll ((first :: others).map Reading.tree) =
          first.tree.operatorCount + Expr.operatorCountAll (others.map Reading.tree) := rfl
      simp only [List.flatMap_cons, List.cons_append, List.append_assoc, List.length_cons] at fits
      simp only [readArguments, accepted_bind, accepted_peek, accepted_advance, Option.bind_some,
        List.flatMap_cons, List.cons_append, List.append_assoc, List.head?_cons, if_true,
        List.tail_cons, readPhrase_expression]
      rw [firstReads.nested (by omega) few ends, bind_guard]
      by_cases counted : count + first.tree.operatorCount ≤ limits.operators
      · rw [othersRead (by rw [List.length_append] at fits; omega)
          (Nat.le_of_succ_le_succ enough) counted, bind_guard, Nat.add_assoc count, ← size]
        simp only [accepted_pure]
        exact guard_guard (by omega) _
      · rw [if_neg (by omega), if_neg (by omega)]

theorem Reads.call (function : String) {readings : List Reading}
    (phrases : ∀ reading ∈ readings,
      Derives .comparison reading.depth reading.tokens reading.tree)
    (reads : ∀ reading ∈ readings,
      Reads limits .comparison reading.depth reading.tokens reading.tree) :
    Reads limits .primary (Reading.deepest readings + 1)
      (.name function :: .mark .leftParen :: Reading.separated readings ++ [.mark .rightParen])
      (.call (.ofList (upperAscii function.toList)) (readings.map Reading.tree)) := by
  intro bound level count rest fits shallow few ends
  simp only [List.cons_append, List.append_assoc, List.nil_append, List.length_cons] at fits ⊢
  obtain ⟨bound, rfl⟩ : ∃ fewer, bound = fewer + 1 := ⟨bound - 1, by omega⟩
  change accepted (readPrimary limits (bound + 1) (readPhrase limits (bound + 1))) _ = _
  simp only [readPrimary, accepted_bind, accepted_next, accepted_peek, Option.bind_some,
    List.head?_cons, List.tail_cons, if_true, accepted_nested, readCall, accepted_expect]
  by_cases deeper : level + 1 ≤ limits.depth
  · rw [if_pos deeper]
    cases readings with
    | nil => exact (if_pos ⟨deeper, few⟩).symm
    | cons first others =>
        obtain ⟨token, tokens, begins, opens⟩ := (phrases first (by simp)).begins
        have noClose : token ≠ .mark .rightParen := by
          rintro rfl
          rcases opens with opens | ⟨_, sign | sign⟩
          · cases opens
          · cases sign
          · cases sign
        have firstReads := reads first (by simp)
        have othersRead := fun other member => reads other (List.mem_cons_of_mem first member)
        have ends := Ends.arguments others rest
        have deepest : Reading.deepest (first :: others) =
            max (first.depth + 1) (Reading.deepest others) := rfl
        have size : (Expr.call (.ofList (upperAscii function.toList))
            ((first :: others).map Reading.tree)).operatorCount =
              first.tree.operatorCount + Expr.operatorCountAll (others.map Reading.tree) := rfl
        rw [Reading.separated_cons, List.append_assoc] at fits ⊢
        have opened : (first.tokens ++ ((others.flatMap fun other =>
            .mark .comma :: other.tokens) ++ .mark .rightParen :: rest)).head? ≠
              some (.mark .rightParen) := by
          rw [begins]
          exact fun head => noClose (Option.some.inj head)
        have enough := Reading.length_le_flatMap others
        simp only [if_neg opened, accepted_bind, readPhrase_expression]
        rw [firstReads.nested (by omega) few ends, bind_guard]
        simp only [List.length_append] at fits
        by_cases counted : count + first.tree.operatorCount ≤ limits.operators
        · rw [accepted_readArguments othersRead
            (by simp only [List.length_append]; omega) deeper (by omega) counted, bind_guard,
            Nat.add_assoc count, ← size]
          simp only [accepted_expect, List.head?_cons, if_true, List.tail_cons, Option.bind_some,
            accepted_pure, map_guard]
          exact guard_guard (by omega) _
        · rw [if_neg (by omega), if_neg (by omega), Option.map_none]
  · rw [if_neg deeper, if_neg (by omega)]

theorem Resumes.tighter {tier inner : Tier} {depth : Nat} {tokens : List Token} {e : Expr}
    (step : tier.tighter? = some inner) (phrase : Derives inner depth tokens e)
    (resumes : Resumes limits inner depth tokens e) : Resumes limits tier depth tokens e := by
  have reads := resumes.reads
  cases tier with
  | comparison | concatenation | addition | multiplication | percent =>
      cases step
      exact reads.resumes_tighter rfl rfl
  | power => cases step; exact reads.power_of_sign.resumes rfl
  | sign => cases step; exact (reads.sign_of_percent phrase).resumes rfl
  | range => cases step; exact reads.range_of_primary.resumes rfl
  | primary => cases step

/-- The reader of a tier takes every phrase of the tier. -/
theorem Derives.resumes {tier : Tier} {depth : Nat} {tokens : List Token} {e : Expr}
    (phrase : Derives tier depth tokens e) : Resumes limits tier depth tokens e := by
  induction phrase with
  | tighter step phrase ih => exact ih.tighter step phrase
  | join joins step _ _ ihLeft ihRight => exact ihLeft.join joins step ihRight.reads
  | power _ _ ihBase ih => exact (ihBase.reads.power ih.reads).resumes rfl
  | minus _ ih => exact ih.reads.minus.resumes rfl
  | plus _ ih => exact ih.reads.plus.resumes rfl
  | percent _ ih => exact ih.percent
  | range _ _ ihFirst ihLast => exact (ihFirst.reads.range ihLast.reads).resumes rfl
  | number | text | boolean =>
      refine (Reads.single rfl ?_).resumes rfl
      intro bound cursor head _
      simp only [readPrimary, accepted_bind, accepted_next, Option.bind_some, head, accepted_pure]
  | name spelling => exact (Reads.name spelling).resumes rfl
  | cell names => exact (Reads.cell names).resumes rfl
  | parentheses _ ih => exact ih.reads.parentheses.resumes rfl
  | call function arguments phrases ih =>
      exact (Reads.call function phrases fun argument member => (ih argument member).reads).resumes
        rfl

/-- Reading all tokens of a formula succeeds exactly when its levels and operators are allowed. -/
theorem Derives.accepted_readPhrase {depth : Nat} {tokens : List Token} {e : Expr}
    (phrase : Derives .comparison depth tokens e) :
    accepted (readPhrase limits (tokens.length + 1) .expression) ⟨tokens, 0, 0⟩ =
      if depth + 1 ≤ limits.depth ∧ e.operatorCount ≤ limits.operators then
        some (e, ⟨[], 0, e.operatorCount⟩)
      else none := by
  have reads : accepted (nested limits (Tier.comparison.reader limits tokens.length))
      ⟨tokens ++ [], 0, 0⟩ =
        if 0 + (depth + 1) ≤ limits.depth ∧ 0 + e.operatorCount ≤ limits.operators then
          some (e, ⟨[], 0, 0 + e.operatorCount⟩)
        else none :=
    phrase.resumes.reads.nested (Nat.le_of_eq (congrArg List.length (List.append_nil tokens)))
      (Nat.zero_le _) (Ends.nil _)
  rw [List.append_nil, Nat.zero_add, Nat.zero_add] at reads
  rw [readPhrase_expression, reads]

end Spreadsheet.Formula
