import Spreadsheet.Proofs.Formula.Parse
import Spreadsheet.Proofs.Formula.Writing

namespace Spreadsheet

namespace Formula

open Spreadsheet.Text
open Spreadsheet.Decimal

/-- The text has these tokens wherever a phrase may end behind it. -/
structure Lexes (text : List Char) (found : List Token) : Prop where
  filled : text ≠ []
  begins : Begins text
  ends : ∀ c, text.getLast? = some c → isBlank c = false
  tokens_append : ∀ rest, Stops rest → tokens (text ++ rest) = found ++ tokens rest

namespace Lexes

variable {text leftText rightText : List Char} {found leftFound rightFound : List Token}

theorem opened {mark : Mark} (begins : Begins mark.symbol) (lexes : Lexes text found) :
    Lexes (mark.symbol ++ text) (.mark mark :: found) where
  filled := List.append_ne_nil_of_right_ne_nil _ lexes.filled
  begins := begins.append mark.symbol_ne_nil text
  ends c last := by
    rw [List.getLast?_append_of_ne_nil _ lexes.filled] at last
    exact lexes.ends c last
  tokens_append rest stops := by
    have scans := scanMark_symbol mark (lexes.begins.append lexes.filled rest)
    rw [List.append_assoc, tokens_symbol mark scans, lexes.tokens_append rest stops,
      List.cons_append]

theorem closed {mark : Mark} (closes : mark ≠ .leftParen)
    (scans : ∀ rest, scanMark (mark.symbol ++ rest) = some (mark, rest))
    (lexes : Lexes text found) : Lexes (text ++ mark.symbol) (found ++ [.mark mark]) where
  filled := List.append_ne_nil_of_left_ne_nil lexes.filled _
  begins := lexes.begins.append lexes.filled mark.symbol
  ends c last := by
    rw [List.getLast?_append_of_ne_nil _ mark.symbol_ne_nil] at last
    cases mark <;> cases last <;> decide
  tokens_append rest _ := by
    rw [List.append_assoc, lexes.tokens_append _ (Stops.symbol closes rest),
      tokens_symbol mark (scans rest), List.append_assoc]
    rfl

theorem join {mark : Mark} (closes : mark ≠ .leftParen) (left : Lexes leftText leftFound)
    (right : Lexes rightText rightFound) :
    Lexes (leftText ++ mark.symbol ++ rightText) (leftFound ++ .mark mark :: rightFound) where
  filled := List.append_ne_nil_of_right_ne_nil _ right.filled
  begins := by
    rw [List.append_assoc]
    exact left.begins.append left.filled _
  ends c last := by
    rw [List.getLast?_append_of_ne_nil _ right.filled] at last
    exact right.ends c last
  tokens_append rest stops := by
    have scans := scanMark_symbol mark (right.begins.append right.filled rest)
    rw [List.append_assoc, List.append_assoc, left.tokens_append _ (Stops.symbol closes _),
      tokens_symbol mark scans, right.tokens_append rest stops, List.append_assoc,
      List.cons_append]

theorem numeral {spelling : List Char} {n : Float} (spells : Spells spelling n) :
    Lexes spelling [.number n] where
  filled := by
    obtain ⟨c, others, rfl, -⟩ := startsNumeral_eq_cons spells.starts
    exact List.cons_ne_nil _ _
  begins := by
    obtain ⟨c, others, rfl, first⟩ := startsNumeral_eq_cons spells.starts
    refine Begins.cons ⟨?_, ?_⟩ <;> rintro rfl <;> rcases first with digit | point
    case refine_1.inl | refine_2.inl => cases digit
    case refine_1.inr | refine_2.inr => cases point
  ends c last := spells.visible (List.mem_of_getLast? last)
  tokens_append _ stops := tokens_numeral spells stops.endsNumeral

theorem quoted (s : String) : Lexes ('"' :: (doubleQuotes s.toList ++ ['"'])) [.text s] where
  filled := List.cons_ne_nil _ _
  begins := Begins.cons (by decide)
  ends c last := by
    rw [← List.cons_append, List.getLast?_concat] at last
    cases last
    decide
  tokens_append rest stops := by
    have scans := tokens_quoted s (stops.head?_ne (by decide))
    simpa using scans

theorem begins_of_isWord {word : List Char} (spelled : isWord word = true) : Begins word := by
  cases word with
  | nil => cases spelled
  | cons c others =>
      have starts := (Bool.and_eq_true_iff.mp spelled).1
      refine Begins.cons ⟨?_, ?_⟩ <;> rintro rfl <;> cases starts

theorem ne_nil_of_isWord {word : List Char} (spelled : isWord word = true) : word ≠ [] := by
  rintro rfl
  cases spelled

theorem word {word : List Char} {token : Token} (spelled : isWord word = true)
    (kind : wordToken word false = token) : Lexes word [token] where
  filled := ne_nil_of_isWord spelled
  begins := begins_of_isWord spelled
  ends c last :=
    isBlank_of_continuesWord (continuesWord_of_isWord spelled (List.mem_of_getLast? last))
  tokens_append rest stops := by
    rw [tokens_word spelled fun _ => stops.continuesWord_eq_false, stops.startsCall_eq_false, kind]
    rfl

theorem separated {arguments : List Writing} (reading : Writing → Reading)
    (lexes : ∀ argument ∈ arguments, Lexes argument.text (reading argument).tokens)
    (filled : arguments ≠ []) :
    Lexes ([','].intercalate (arguments.map Writing.text))
      (Reading.separated (arguments.map reading)) := by
  induction arguments with
  | nil => exact absurd rfl filled
  | cons first others ih =>
      obtain ⟨ofFirst, ofOthers⟩ := List.forall_mem_cons.mp lexes
      cases others with
      | nil => simpa [List.intercalate_singleton, Reading.separated] using ofFirst
      | cons second others =>
          have comma : Mark.comma ≠ .leftParen := by decide
          have joined := ofFirst.join comma (ih ofOthers (List.cons_ne_nil _ _))
          simpa [Reading.separated, List.intercalate_cons_cons, Mark.symbol] using joined

/-- A word is a name in front of a parenthesis, whatever it is elsewhere. -/
theorem called {function : String} (spelled : isWord function.toList = true)
    (inside : ∀ rest, tokens (text ++ ')' :: rest) = found ++ .mark .rightParen :: tokens rest) :
    Lexes (function.toList ++ '(' :: (text ++ [')']))
      (.name function :: .mark .leftParen :: found ++ [.mark .rightParen]) where
  filled := List.append_ne_nil_of_left_ne_nil (ne_nil_of_isWord spelled) _
  begins := (begins_of_isWord spelled).append (ne_nil_of_isWord spelled) _
  ends c last := by
    rw [← List.cons_append, ← List.append_assoc, List.getLast?_concat] at last
    cases last
    decide
  tokens_append rest _ := by
    have opens : tokens ('(' :: (text ++ ')' :: rest)) =
        .mark .leftParen :: (found ++ .mark .rightParen :: tokens rest) := by
      rw [← inside]
      exact tokens_symbol .leftParen rfl
    have whole : function.toList ++ '(' :: (text ++ [')']) ++ rest =
        function.toList ++ '(' :: (text ++ ')' :: rest) := by simp
    have stops : ∀ c, ('(' :: (text ++ ')' :: rest)).head? = some c → continuesWord c = false := by
      rintro _ ⟨⟩
      decide
    have kind : wordToken function.toList true = .name function := by
      rw [wordToken, if_pos rfl, String.ofList_toList]
    rw [whole, tokens_word spelled stops, startsCall_leftParen, kind, opens]
    simp

theorem tokens_eq (lexes : Lexes text found) : tokens text = found := by
  have whole := lexes.tokens_append [] Stops.nil
  rwa [List.append_nil, tokens_nil, List.append_nil] at whole

theorem body_eq (lexes : Lexes text found) : body ('=' :: text) = text := by
  have trimmed : trim ('=' :: text) = '=' :: text := by
    refine trim_eq_self (by rintro _ ⟨⟩; decide) fun c last => lexes.ends c ?_
    rwa [← List.getLast?_append_of_ne_nil ['='] lexes.filled]
  unfold body
  rw [trimmed]
  rfl

end Lexes

theorem Tier.rank_bounds (tier : Tier) :
    Tier.primary.rank ≤ tier.rank ∧ tier.rank ≤ Tier.comparison.rank := by
  cases tier <;> decide

theorem Tier.eq_or_tighter? {inner tier : Tier} (le : inner.rank ≤ tier.rank) :
    tier = inner ∨ ∃ next, tier.tighter? = some next ∧ inner.rank ≤ next.rank := by
  cases tier <;> cases inner <;> simp_all [Tier.rank, Tier.tighter?]

/-- A phrase stands wherever a looser one may. -/
theorem Derives.loosen {inner : Tier} {depth : Nat} {tokens : List Token} {e : Expr}
    (phrase : Derives inner depth tokens e) (tier : Tier) (le : inner.rank ≤ tier.rank) :
    Derives tier depth tokens e := by
  rcases Tier.eq_or_tighter? le with rfl | ⟨next, step, le⟩
  · exact phrase
  · exact .tighter step (phrase.loosen next le)
termination_by tier.rank
decreasing_by
  have := Tier.rank_tighter step
  omega

/-- The text is one of a phrase of the tier that means the tree. -/
def Phrased (tier : Tier) (e : Expr) (text : List Char) : Prop :=
  ∃ depth found, Lexes text found ∧ Derives tier depth found e

namespace Phrased

variable {tier inner : Tier} {e operand left right : Expr} {text leftText rightText : List Char}

theorem loosen (phrased : Phrased inner e text) (le : inner.rank ≤ tier.rank) :
    Phrased tier e text := by
  obtain ⟨depth, found, lexes, phrase⟩ := phrased
  exact ⟨depth, found, lexes, phrase.loosen tier le⟩

theorem parentheses (phrased : Phrased .comparison e text) :
    Phrased .primary e ('(' :: (text ++ [')'])) := by
  obtain ⟨depth, found, lexes, phrase⟩ := phrased
  have begins : Begins Mark.leftParen.symbol := Begins.cons (by decide)
  have closes : Mark.rightParen ≠ .leftParen := by decide
  exact ⟨depth + 1, _, (lexes.closed closes fun _ => rfl).opened begins, .parentheses phrase⟩

theorem enclose (phrased : Phrased e.tier e text) (tier : Tier) :
    Phrased tier e (e.enclose tier text) := by
  unfold Expr.enclose
  split
  next le => exact phrased.loosen le
  next => exact (phrased.loosen (Tier.rank_bounds _).2).parentheses.loosen (Tier.rank_bounds _).1

theorem binary (op : BinaryOp) (leftPhrased : Phrased op.leftTier left leftText)
    (rightPhrased : Phrased op.rightTier right rightText) :
    Phrased op.tier (.binary op left right) (leftText ++ op.mark.symbol ++ rightText) := by
  obtain ⟨leftDepth, leftFound, leftLexes, leftPhrase⟩ := leftPhrased
  obtain ⟨rightDepth, rightFound, rightLexes, rightPhrase⟩ := rightPhrased
  have closes : op.mark ≠ .leftParen := by cases op <;> decide
  have lexes := leftLexes.join closes rightLexes
  cases op with
  | power => exact ⟨_, _, lexes, .power leftPhrase rightPhrase⟩
  | _ => exact ⟨_, _, lexes, .join rfl rfl leftPhrase rightPhrase⟩

theorem negate (phrased : Phrased .sign operand text) :
    Phrased .sign (.unary .negate operand) ('-' :: text) := by
  obtain ⟨depth, found, lexes, phrase⟩ := phrased
  have begins : Begins Mark.minus.symbol := Begins.cons (by decide)
  exact ⟨depth + 1, _, lexes.opened begins, .minus phrase⟩

theorem percent (phrased : Phrased .percent operand text) :
    Phrased .percent (.unary .percent operand) (text ++ ['%']) := by
  obtain ⟨depth, found, lexes, phrase⟩ := phrased
  have closes : Mark.percent ≠ .leftParen := by decide
  exact ⟨depth, _, lexes.closed closes fun _ => rfl, .percent phrase⟩

theorem lexes_print {address : Address} (inSheet : address.InSheet) :
    Lexes address.print [.reference (.ofList address.print)] ∧
      Derives .primary 0 [.reference (.ofList address.print)] (.cell address) := by
  have token := wordToken_print address.valid_shape (Address.length_columnLetters inSheet.2)
  refine ⟨.word (isWord_print address.valid_shape) token, .cell ?_⟩
  rw [String.toList_ofList]
  exact Address.read_print inSheet

theorem cell {address : Address} (inSheet : address.InSheet) :
    Phrased .primary (.cell address) address.print := ⟨0, _, lexes_print inSheet⟩

theorem range {range : Range} (ordered : range.Ordered) (first : range.first.InSheet)
    (last : range.last.InSheet) :
    Phrased .range (.range range) (range.first.print ++ ':' :: range.last.print) := by
  obtain ⟨firstLexes, firstPhrase⟩ := lexes_print first
  obtain ⟨lastLexes, lastPhrase⟩ := lexes_print last
  have closes : Mark.colon ≠ .leftParen := by decide
  have lexes := firstLexes.join closes lastLexes
  have phrase := firstPhrase.range lastPhrase
  rw [List.append_assoc] at lexes
  rw [Range.spanning_of_ordered ordered] at phrase
  exact ⟨_, _, lexes, phrase⟩

theorem call {function : String} (spelled : isWord function.toList = true)
    (upper : upperAscii function.toList = function.toList) {arguments : List Writing}
    (phrased : ∀ argument ∈ arguments, Phrased .comparison argument.tree argument.text) :
    Phrased .primary (.call function (arguments.map Writing.tree))
      (function.toList ++ '(' :: ([','].intercalate (arguments.map Writing.text) ++ [')'])) := by
  choose! depth found lexes phrase using phrased
  let reading (argument : Writing) : Reading := ⟨depth argument, found argument, argument.tree⟩
  have derived : ∀ argument ∈ arguments.map reading,
      Derives .comparison argument.depth argument.tokens argument.tree := by
    intro argument listed
    obtain ⟨writing, member, rfl⟩ := List.mem_map.mp listed
    exact phrase writing member
  have whole := Derives.call function (arguments.map reading) derived
  rw [upper, String.ofList_toList, List.map_map] at whole
  refine ⟨_, _, .called spelled fun rest => ?_, whole⟩
  cases arguments with
  | nil => exact tokens_symbol .rightParen rfl
  | cons first others =>
      have inside := Lexes.separated reading lexes (List.cons_ne_nil _ _)
      rw [inside.tokens_append _ (Stops.cons (by decide))]
      exact congrArg _ (tokens_symbol .rightParen rfl)

end Phrased

theorem Writes.phrased {e : Expr} {text : List Char} (written : Writes e text)
    (writable : e.Writable) : Phrased e.tier e text := by
  induction written with
  | number spells => exact ⟨0, _, .numeral spells, .number _⟩
  | text s => exact ⟨0, _, .quoted s, .text s⟩
  | boolean b => exact ⟨0, _, .word (by cases b <;> rfl) (by cases b <;> rfl), .boolean b⟩
  | cell address => exact .cell (writable _ List.mem_cons_self)
  | range rectangle =>
      obtain ⟨ordered, first, last⟩ := writable _ List.mem_cons_self
      exact .range ordered first last
  | name spelling =>
      have named : IsName spelling.toList := writable _ List.mem_cons_self
      have kind := named.wordToken_eq
      rw [String.ofList_toList] at kind
      exact ⟨0, _, .word named.isWord kind, .name spelling⟩
  | binary op _ _ ihLeft ihRight =>
      obtain ⟨-, leftWritable, rightWritable⟩ := Expr.forall_subtrees_binary.mp writable
      exact .binary op ((ihLeft leftWritable).enclose _) ((ihRight rightWritable).enclose _)
  | negate _ ih => exact .negate ((ih (Expr.forall_subtrees_unary.mp writable).2).enclose _)
  | percent _ ih => exact .percent ((ih (Expr.forall_subtrees_unary.mp writable).2).enclose _)
  | call function arguments _ ih =>
      obtain ⟨⟨spelled, upper⟩, inside⟩ := Expr.forall_subtrees_call.mp writable
      refine .call spelled upper fun argument member => ?_
      have phrased := ih argument member (inside _ (List.mem_map_of_mem member))
      exact phrased.loosen (Tier.rank_bounds _).2

/-- A tree that can be written is read back from each of its texts under limits that no text of
that length can break. -/
theorem parse_written {e : Expr} (writable : e.Writable) :
    (∃ text, Writes e text) ∧
    ∀ (text : List Char) (options : Options), Writes e text →
      text.length ≤ options.maxDepth.toNat → text.length ≤ options.maxOperators.toNat →
      options.parse (.ofList ('=' :: text)) = .ok e := by
  refine ⟨exists_writes e writable, fun text options written deep long => ?_⟩
  obtain ⟨depth, found, lexes, phrase⟩ := (written.phrased writable).loosen (Tier.rank_bounds _).2
  obtain ⟨levels, operators⟩ := phrase.lt_length
  have bounded := tokens_length text
  rw [lexes.tokens_eq] at bounded
  refine parse_eq_ok_iff.mpr ⟨depth, ?_, by omega, by omega⟩
  rwa [String.toList_ofList, lexes.body_eq, lexes.tokens_eq]

theorem written_power_parses :
    let corners : Range := ⟨⟨0, 0, false, false⟩, ⟨6, 1, true, true⟩⟩
    let call : Expr := .call "LOG10" [.range corners, .name "E5x"]
    let tree : Expr := .binary .power (.unary .negate (.number 2.5))
      (.unary .percent (.binary .concat (.text "a \"b\"") call))
    let text : List Char := "-2.50^(\"a \"\"b\"\"\"&LOG10(A1:$B$7,E5x))%".toList
    tree.Writable ∧ Writes tree text ∧
      Options.standard.parse (.ofList ('=' :: text)) = .ok tree := by
  intro corners call tree text
  have writable : tree.Writable := by
    have number : (Expr.number 2.5).HasText := ⟨5 * 2 ^ 50, -51, rfl⟩
    have range : (Expr.range corners).HasText :=
      ⟨⟨by decide, by decide⟩, ⟨by decide, by decide⟩, ⟨by decide, by decide⟩⟩
    have name : (Expr.name "E5x").HasText := ⟨rfl, rfl, rfl, rfl⟩
    have function : call.HasText := ⟨rfl, rfl⟩
    intro part inside
    have parts : part ∈ [tree, .unary .negate (.number 2.5), .number 2.5, .unary .percent
        (.binary .concat (.text "a \"b\"") call), .binary .concat (.text "a \"b\"") call,
        .text "a \"b\"", call, .range corners, .name "E5x"] := inside
    simp only [List.mem_cons, List.not_mem_nil, or_false] at parts
    rcases parts with rfl | rfl | rfl | rfl | rfl | rfl | rfl | rfl | rfl
    exacts [trivial, trivial, number, trivial, trivial, trivial, function, range, name]
  have written : Writes tree text := by
    have number : Spells ['2', '.', '5', '0'] 2.5 := ⟨rfl, by decide +kernel, rfl⟩
    have call : Writes call "LOG10(A1:$B$7,E5x)".toList := by
      have first : corners.first.print = "A1".toList := by cbv
      have last : corners.last.print = "$B$7".toList := by cbv
      have range := Writes.range corners
      rw [first, last] at range
      refine .call "LOG10" [⟨.range corners, "A1:$B$7".toList⟩, ⟨.name "E5x", "E5x".toList⟩] ?_
      simp only [List.forall_mem_cons, List.not_mem_nil, false_imp_iff, implies_true, and_true]
      exact ⟨range, .name "E5x"⟩
    exact .binary .power (.negate (.number number)) (.percent (.binary .concat (.text _) call))
  exact ⟨writable, written,
    (parse_written writable).2 text .standard written (by decide) (by decide)⟩
end Formula

end Spreadsheet
