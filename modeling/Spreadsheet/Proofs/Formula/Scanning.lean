import Spreadsheet.Formula.Token.Scan
import Spreadsheet.Proofs.Address.Print
import Spreadsheet.Proofs.Decimal.Numeral

/-! Tokens at the front of a text, where what follows cannot be taken for more of them. -/

namespace Spreadsheet.Formula

open Spreadsheet.Text
open Spreadsheet.Decimal

theorem tokens_nil : tokens [] = [] := by
  rw [tokens]
  split
  next => rfl
  next found => cases found

theorem tokens_eq_nil {s : List Char} (ends : scan? s = none) : tokens s = [] := by
  rw [tokens]
  split
  next => rfl
  next found => rw [ends] at found; cases found

theorem tokens_eq_cons {s rest : List Char} {token : Token} (scans : scan? s = some (token, rest)) :
    tokens s = token :: tokens rest := by
  rw [tokens]
  split
  next none => rw [none] at scans; cases scans
  next found => rw [found] at scans; cases scans; rfl

theorem scan?_cons {c : Char} (visible : isBlank c = false) (s : List Char) :
    scan? (c :: s) = some (scanAt c s) := by
  unfold scan?
  rw [skipBlanks_of_head? fun d head => by cases head; exact visible]

theorem tokens_cons {c : Char} {s : List Char} (visible : isBlank c = false) :
    tokens (c :: s) = (scanAt c s).1 :: tokens (scanAt c s).2 :=
  tokens_eq_cons (scan?_cons visible s)

theorem scan?_append_blank {gap : List Char} (blank : AllBlank gap) (s : List Char) :
    scan? (gap ++ s) = scan? s := by
  unfold scan?
  rw [skipBlanks_append blank]

theorem allBlank_of_scan? {s : List Char} (none : scan? s = none) : AllBlank s := by
  unfold scan? at none
  split at none
  next skipped => exact List.dropWhile_eq_nil_iff.mp skipped
  next => cases none

def Mark.symbol : Mark → List Char
  | .plus => ['+']
  | .minus => ['-']
  | .star => ['*']
  | .slash => ['/']
  | .caret => ['^']
  | .percent => ['%']
  | .ampersand => ['&']
  | .equal => ['=']
  | .notEqual => ['<', '>']
  | .lessThan => ['<']
  | .lessEqual => ['<', '=']
  | .greaterThan => ['>']
  | .greaterEqual => ['>', '=']
  | .colon => [':']
  | .comma => [',']
  | .leftParen => ['(']
  | .rightParen => [')']

theorem Mark.symbol_ne_nil (mark : Mark) : mark.symbol ≠ [] := by
  cases mark <;> exact List.cons_ne_nil _ _

/-- No sign of a comparison goes on with the text. -/
def Begins (s : List Char) : Prop := ∀ c, s.head? = some c → c ≠ '=' ∧ c ≠ '>'

theorem Begins.cons {c : Char} {s : List Char} (plain : c ≠ '=' ∧ c ≠ '>') : Begins (c :: s) := by
  rintro _ ⟨⟩
  exact plain

theorem Begins.append {s : List Char} (begins : Begins s) (filled : s ≠ []) (rest : List Char) :
    Begins (s ++ rest) := by
  intro c head
  rw [List.head?_append_of_ne_nil _ filled] at head
  exact begins c head

theorem scanMark_symbol (mark : Mark) {rest : List Char} (begins : Begins rest) :
    scanMark (mark.symbol ++ rest) = some (mark, rest) := by
  cases mark with
  | lessThan | greaterThan =>
      cases rest with
      | nil => rfl
      | cons c others =>
          obtain ⟨noEqual, noGreater⟩ := begins c rfl
          simp [Mark.symbol, scanMark, noEqual, noGreater]
  | _ => rfl

theorem tokens_symbol (mark : Mark) {rest : List Char}
    (scans : scanMark (mark.symbol ++ rest) = some (mark, rest)) :
    tokens (mark.symbol ++ rest) = .mark mark :: tokens rest := by
  obtain ⟨c, others, symbol, visible⟩ :
      ∃ c others, mark.symbol = c :: others ∧ isBlank c = false := by
    cases mark <;> exact ⟨_, _, rfl, by decide⟩
  rw [symbol, List.cons_append] at scans ⊢
  rw [tokens_cons visible]
  unfold scanAt
  rw [scans]

theorem eq_of_scanMark {s rest : List Char} {mark : Mark} (scans : scanMark s = some (mark, rest)) :
    s = mark.symbol ++ rest := by
  unfold scanMark at scans
  split at scans <;> cases scans <;> rfl

theorem scanMark_comparison_ne_none {c : Char} (sign : c ∈ ['<', '>']) (s : List Char) :
    scanMark (c :: s) ≠ none := by
  rcases List.mem_pair.mp sign with rfl | rfl
  · unfold scanMark
    split
    case h_18 less _ _ => exact absurd rfl (less s)
    all_goals exact Option.some_ne_none _
  · unfold scanMark
    split
    case h_18 greater => exact absurd rfl (greater s)
    all_goals exact Option.some_ne_none _

theorem scanMark_eq_none_congr {c : Char} {s t : List Char} (none : scanMark (c :: s) = none) :
    scanMark (c :: t) = Option.none := by
  by_contra found
  obtain ⟨⟨mark, rest⟩, found⟩ := Option.ne_none_iff_exists'.mp found
  have spelled := eq_of_scanMark found
  cases mark with
  | notEqual | lessThan | lessEqual | greaterThan | greaterEqual =>
      obtain ⟨rfl, -⟩ := List.cons.inj spelled
      exact scanMark_comparison_ne_none (by decide) s none
  | _ =>
      obtain ⟨rfl, -⟩ := List.cons.inj spelled
      cases none

/-- A mark is told from its own characters and from whether a sign of comparison follows. -/
theorem scanMark_of_heads {mark : Mark} {rest other : List Char}
    (scans : scanMark (mark.symbol ++ rest) = some (mark, rest))
    (heads : ∀ c, c = '=' ∨ c = '>' → other.head? = some c → rest.head? = some c) :
    scanMark (mark.symbol ++ other) = some (mark, other) := by
  have behind {c : Char} {others : List Char} (same : other = c :: others)
      (sign : c = '=' ∨ c = '>') : rest = c :: rest.tail :=
    List.eq_cons_of_mem_head? (heads c sign (by rw [same]; rfl))
  cases mark with
  | lessThan =>
      cases other with
      | nil => rfl
      | cons c others =>
          by_cases sign : c = '=' ∨ c = '>'
          · rw [behind rfl sign] at scans
            rcases sign with rfl | rfl <;> cases scans
          · obtain ⟨noEqual, noGreater⟩ := not_or.mp sign
            simp [Mark.symbol, scanMark, noEqual, noGreater]
  | greaterThan =>
      cases other with
      | nil => rfl
      | cons c others =>
          by_cases equal : c = '='
          · rw [behind rfl (.inl equal), equal] at scans
            cases scans
          · simp [Mark.symbol, scanMark, equal]
  | _ => rfl

/-- Characters that marks and texts begin with. -/
def openings : List Char :=
  ['+', '-', '*', '/', '^', '%', '&', ':', ',', '(', ')', '=', '<', '>', '"']

theorem scanMark_eq_none {c : Char} {s : List Char} (plain : c ∉ openings) :
    scanMark (c :: s) = none := by
  unfold scanMark
  split
  case h_18 => rfl
  all_goals
    rename_i same
    cases same
    exact absurd plain (by decide)

/-- Behind the openings of marks and texts come numbers, words and characters of no token. -/
theorem scanAt_of_plain {c : Char} {s : List Char} (plain : c ∉ openings) :
    scanAt c s =
      if startsNumeral (c :: s) then numberToken (c :: s)
      else if startsWord c then
        (wordToken (c :: s.takeWhile continuesWord) (startsCall (s.dropWhile continuesWord)),
          s.dropWhile continuesWord)
      else (.invalid (.unexpectedCharacter c), s) := by
  have noQuote : c ≠ '"' := by
    rintro rfl
    exact plain (by decide)
  unfold scanAt
  rw [scanMark_eq_none plain]
  dsimp only
  rw [if_neg noQuote]

def endings : List Char := ['+', '-', '*', '/', '^', '%', '&', ':', ',', ')', '=', '<', '>']

def Stops (rest : List Char) : Prop := ∀ c, rest.head? = some c → c ∈ endings

namespace Stops

theorem nil : Stops [] := nofun

theorem cons {c : Char} {rest : List Char} (ends : c ∈ endings) : Stops (c :: rest) := by
  rintro _ ⟨⟩
  exact ends

theorem symbol {mark : Mark} (closes : mark ≠ .leftParen) (rest : List Char) :
    Stops (mark.symbol ++ rest) := by
  cases mark with
  | leftParen => exact absurd rfl closes
  | _ => exact Stops.cons (by decide)

variable {rest : List Char} (stops : Stops rest)

include stops

theorem outside {p : Char → Bool} (all : endings.all p = true) {c : Char}
    (head : rest.head? = some c) : p c = true := List.all_eq_true.mp all c (stops c head)

theorem endsNumeral : EndsNumeral rest := by
  have all : endings.all (fun c => !c.isDigit && c != '.' && !isPowerMark c) = true := rfl
  intro c head
  have plain := stops.outside all head
  rw [Bool.and_eq_true, Bool.and_eq_true, bne_iff_ne, Bool.not_eq_true', Bool.not_eq_true'] at plain
  exact ⟨plain.1.1, plain.1.2, plain.2⟩

theorem continuesWord_eq_false {c : Char} (head : rest.head? = some c) :
    continuesWord c = false := by
  have all : endings.all (fun c => !continuesWord c) = true := rfl
  exact (Bool.not_eq_true' _).mp (stops.outside all head)

theorem head?_ne {c : Char} (other : c ∉ endings) : rest.head? ≠ some c :=
  fun head => other (stops c head)

theorem startsCall_eq_false : startsCall rest = false := by
  have all : endings.all (fun c => !isBlank c) = true := rfl
  have visible (c : Char) (head : rest.head? = some c) : isBlank c = false :=
    (Bool.not_eq_true' _).mp (stops.outside all head)
  unfold startsCall
  rw [skipBlanks_of_head? visible, beq_eq_false_iff_ne]
  exact stops.head?_ne (by decide)

end Stops

/-- A quote within a text is written twice. -/
def doubleQuotes (s : List Char) : List Char :=
  s.flatMap fun c => if c = '"' then ['"', '"'] else [c]

theorem doubleQuotes_cons {c : Char} (plain : c ≠ '"') (s : List Char) :
    doubleQuotes (c :: s) = c :: doubleQuotes s := by
  simp [doubleQuotes, plain]

theorem scanQuoted_pair (s : List Char) :
    scanQuoted ('"' :: '"' :: s) = (scanQuoted s).map (Prod.map (List.cons '"') id) := by
  rw [scanQuoted]
  rfl

theorem scanQuoted_cons {c : Char} (plain : c ≠ '"') (s : List Char) :
    scanQuoted (c :: s) = (scanQuoted s).map (Prod.map (List.cons c) id) := by
  rw [scanQuoted]
  · rfl
  · exact fun _ same => absurd same plain
  · exact plain

theorem scanQuoted_close {s : List Char} (ends : s.head? ≠ some '"') :
    scanQuoted ('"' :: s) = some ([], s) := by
  rw [scanQuoted]
  rintro others rfl
  exact ends rfl

theorem scanQuoted_doubleQuotes (s : List Char) {rest : List Char}
    (ends : rest.head? ≠ some '"') :
    scanQuoted (doubleQuotes s ++ '"' :: rest) = some (s, rest) := by
  induction s with
  | nil => exact scanQuoted_close ends
  | cons c s ih =>
      by_cases quote : c = '"'
      · subst quote
        change scanQuoted ('"' :: '"' :: (doubleQuotes s ++ '"' :: rest)) = _
        rw [scanQuoted_pair, ih]
        rfl
      · rw [doubleQuotes_cons quote, List.cons_append, scanQuoted_cons quote, ih]
        rfl

theorem eq_of_scanQuoted {s text rest : List Char} (scans : scanQuoted s = some (text, rest)) :
    s = doubleQuotes text ++ '"' :: rest ∧ rest.head? ≠ some '"' := by
  fun_induction scanQuoted s generalizing text with
  | case1 => cases scans
  | case2 s ih =>
      obtain ⟨⟨text', rest'⟩, found, same⟩ := Option.map_eq_some_iff.mp scans
      cases same
      obtain ⟨rfl, ends⟩ := ih found
      exact ⟨rfl, ends⟩
  | case3 s plain =>
      cases scans
      refine ⟨rfl, fun head => ?_⟩
      obtain ⟨others, rfl⟩ := List.head?_eq_some_iff.mp head
      exact plain others rfl
  | case4 c s _ quote ih =>
      obtain ⟨⟨text', rest'⟩, found, same⟩ := Option.map_eq_some_iff.mp scans
      cases same
      obtain ⟨rfl, ends⟩ := ih found
      rw [doubleQuotes_cons quote, List.cons_append]
      exact ⟨rfl, ends⟩

theorem scanAt_quote (s : List Char) :
    scanAt '"' s =
      match scanQuoted s with
      | some (text, rest) => (.text (.ofList text), rest)
      | none => (.invalid .unterminatedText, []) := by
  have noMark : scanMark ('"' :: s) = none := rfl
  unfold scanAt
  rw [noMark]
  exact if_pos rfl

theorem tokens_quoted (s : String) {rest : List Char} (ends : rest.head? ≠ some '"') :
    tokens ('"' :: (doubleQuotes s.toList ++ '"' :: rest)) = .text s :: tokens rest := by
  rw [tokens_cons (by decide), scanAt_quote, scanQuoted_doubleQuotes _ ends]
  dsimp only
  rw [String.ofList_toList]

theorem numberToken_of_scan {s rest : List Char} {numeral : Numeral}
    (scans : Numeral.scan s = (numeral, rest)) :
    numberToken s =
      (if (numeral.toFloat false).isFinite then .number (numeral.toFloat false)
        else .invalid (.invalidNumber (.ofList (s.take (s.length - rest.length)))), rest) := by
  unfold numberToken
  rw [scans]
  dsimp only
  split <;> rfl

theorem scan_point_length {c : Char} (digit : c.isDigit = true) (s : List Char) :
    (Numeral.scan ('.' :: c :: s)).2.length ≤ s.length :=
  calc (scanPower (spanDigits (c :: s)).2).2.length
    _ ≤ (spanDigits (c :: s)).2.length := scanPower_length _
    _ ≤ s.length := spanDigits_cons_length digit s

theorem tokens_numeral {spelling rest : List Char} {n : Float} (spells : Spells spelling n)
    (ends : EndsNumeral rest) : tokens (spelling ++ rest) = .number n :: tokens rest := by
  obtain ⟨numeral, scanned, value⟩ := spells.scan_eq
  have starts := startsNumeral_append spells.starts rest
  have token : numberToken (spelling ++ rest) = (.number n, rest) := by
    unfold numberToken
    rw [Numeral.scan_append ends (congrArg Prod.snd scanned), scanned]
    dsimp only
    rw [value, if_pos spells.finite]
  obtain ⟨c, others, rfl, first⟩ := startsNumeral_eq_cons spells.starts
  have plain : c ∉ openings := by
    have all : openings.all (fun d => !(d.isDigit || d == '.')) = true := rfl
    intro opens
    have outside := List.all_eq_true.mp all c opens
    rcases first with digit | point
    · simp [digit] at outside
    · simp [point] at outside
  rw [List.cons_append] at starts token ⊢
  rw [tokens_cons (spells.visible List.mem_cons_self), scanAt_of_plain plain, if_pos starts, token]

def isWord : List Char → Bool
  | [] => false
  | c :: others => startsWord c && others.all continuesWord

theorem continuesWord_of_startsWord {c : Char} (starts : startsWord c = true) :
    continuesWord c = true := by
  simp only [startsWord, continuesWord, Bool.or_eq_true, isAlphanum_iff] at starts ⊢
  rcases starts with (alpha | underscore) | dollar
  · exact .inl (.inl (.inl (.inl alpha)))
  · exact .inl (.inl (.inr underscore))
  · exact .inl (.inr dollar)

theorem continuesWord_of_isWord {word : List Char} (spelled : isWord word = true) {c : Char}
    (member : c ∈ word) : continuesWord c = true := by
  cases word with
  | nil => cases spelled
  | cons first others =>
      obtain ⟨starts, continues⟩ := Bool.and_eq_true_iff.mp spelled
      rcases List.mem_cons.mp member with rfl | behind
      · exact continuesWord_of_startsWord starts
      · exact List.all_eq_true.mp continues c behind

theorem isBlank_of_continuesWord {c : Char} (continues : continuesWord c = true) :
    isBlank c = false := by
  simp only [continuesWord, Bool.or_eq_true, beq_iff_eq, isAlphanum_iff] at continues
  rcases continues with (((alpha | digit) | rfl) | rfl) | rfl
  · exact isBlank_of_isAlpha alpha
  · exact isBlank_of_isDigit digit
  all_goals decide

theorem startsNumeral_eq_false {c : Char} (starts : startsWord c = true) (s : List Char) :
    startsNumeral (c :: s) = false := by
  rw [Bool.eq_false_iff]
  intro numeral
  obtain ⟨d, others, same, digit | point⟩ := startsNumeral_eq_cons numeral
  · cases same
    unfold startsWord at starts
    rw [isAlpha_eq_false_of_isDigit digit] at starts
    simp only [Bool.false_or, Bool.or_eq_true, beq_iff_eq] at starts
    rcases starts with rfl | rfl <;> cases digit
  · cases same
    rw [point] at starts
    cases starts

theorem tokens_word {word rest : List Char} (spelled : isWord word = true)
    (ends : ∀ c, rest.head? = some c → continuesWord c = false) :
    tokens (word ++ rest) = wordToken word (startsCall rest) :: tokens rest := by
  cases word with
  | nil => cases spelled
  | cons c others =>
      obtain ⟨starts, continues⟩ := Bool.and_eq_true_iff.mp spelled
      have parts := takeWhile_dropWhile_append (List.all_eq_true.mp continues) ends
      have plain : c ∉ openings := by
        have all : openings.all (fun d => !startsWord d) = true := rfl
        intro opens
        have outside := List.all_eq_true.mp all c opens
        simp [starts] at outside
      rw [List.cons_append,
        tokens_cons (isBlank_of_continuesWord (continuesWord_of_startsWord starts)),
        scanAt_of_plain plain, startsNumeral_eq_false starts, if_neg Bool.false_ne_true,
        if_pos starts, parts.1, parts.2]

theorem startsCall_leftParen (rest : List Char) : startsCall ('(' :: rest) = true := by
  unfold startsCall
  rw [skipBlanks_of_head? (by rintro _ ⟨⟩; decide)]
  rfl

/-- A word that stands for itself: neither a truth value nor shaped like an address. -/
structure IsName (word : List Char) : Prop where
  isWord : isWord word = true
  not_true : sameAscii word ['T', 'R', 'U', 'E'] = false
  not_false : sameAscii word ['F', 'A', 'L', 'S', 'E'] = false
  not_reference : isReference word = false

theorem IsName.wordToken_eq {word : List Char} (named : IsName word) :
    wordToken word false = .name (.ofList word) := by
  simp [wordToken, named.not_true, named.not_false, named.not_reference]

section Shape

variable {shape : Address.Shape} (valid : shape.Valid)

include valid

theorem isWord_print : isWord shape.print = true := by
  have continues : ∀ c ∈ shape.print, continuesWord c = true := by
    intro c member
    simp only [continuesWord, Bool.or_eq_true, isAlphanum_iff, beq_iff_eq]
    rcases valid.mem_print member with dollar | alpha | digit
    · exact .inl (.inr dollar)
    · exact .inl (.inl (.inl (.inl alpha)))
    · exact .inl (.inl (.inl (.inr digit)))
  obtain ⟨c, others, print, first⟩ := valid.print_eq_cons
  rw [print] at continues ⊢
  refine Bool.and_eq_true_iff.mpr ⟨?_, List.all_eq_true.mpr (List.forall_mem_cons.mp continues).2⟩
  rcases first with rfl | alpha
  · rfl
  · simp [startsWord, alpha]

theorem wordToken_print (short : shape.letters.length ≤ 3) :
    wordToken shape.print false = .reference (.ofList shape.print) := by
  obtain ⟨c, member, digit⟩ := valid.exists_isDigit
  have shaped : isReference shape.print = true := by
    unfold isReference
    rw [valid.shape?_print]
    exact decide_eq_true short
  have outside {t : List Char} (letters : (upperAscii t).all (fun d => !d.isDigit) = true) :
      sameAscii shape.print t = false := by
    refine sameAscii_eq_false digit member fun inside => ?_
    have letter := List.all_eq_true.mp letters c inside
    simp [digit] at letter
  unfold wordToken
  rw [if_neg Bool.false_ne_true, outside rfl, if_neg Bool.false_ne_true, outside rfl,
    if_neg Bool.false_ne_true, if_pos shaped]

end Shape

theorem suffix_scanAt (c : Char) (s : List Char) : (scanAt c s).2 <:+ c :: s := by
  unfold scanAt
  split
  next mark rest found =>
    rw [eq_of_scanMark found]
    exact List.suffix_append _ _
  next =>
    split
    next =>
      split
      next text rest found =>
        rw [(eq_of_scanQuoted found).1]
        exact ((List.suffix_cons _ _).trans (List.suffix_append _ _)).trans (List.suffix_cons _ _)
      next => exact List.nil_suffix
    next =>
      split
      next =>
        rw [numberToken_of_scan (Prod.ext rfl rfl)]
        exact Numeral.suffix_scan _
      next =>
        split
        next => exact (List.dropWhile_suffix _).trans (List.suffix_cons _ _)
        next => exact List.suffix_cons _ _

theorem suffix_scan? {s rest : List Char} {token : Token} (scans : scan? s = some (token, rest)) :
    rest <:+ s := by
  unfold scan? at scans
  split at scans
  next => cases scans
  next c others skipped =>
    have behind := suffix_scanAt c others
    rw [Option.some.inj scans, ← skipped] at behind
    exact behind.trans (List.dropWhile_suffix _)

end Spreadsheet.Formula
