import Spreadsheet.Proofs.Grid.Numbers
import Spreadsheet.Proofs.Grid.Quoting

/-! The pieces of a text that its tokens take, one behind the other from its start to its end. -/

namespace Spreadsheet.Formula

open Spreadsheet.Text
open Spreadsheet.Decimal

/-- A character that no token begins with. -/
def isStray (c : Char) : Bool :=
  !(isBlank c || openings.contains c || c.isDigit || startsWord c)

/-- The texts that a token may take. What kind of a word it is depends on what follows as well. -/
inductive Lexeme : Token → List Char → Prop
  | mark (mark : Mark) : Lexeme (.mark mark) mark.symbol
  | text (s : List Char) : Lexeme (.text (.ofList s)) ('"' :: (doubleQuotes s ++ ['"']))
  | unclosed (s : List Char) : Lexeme (.invalid .unterminatedText) ('"' :: doubleQuotes s)
  | number {spelling : List Char} {n : Float} (spells : Spells spelling n) :
      Lexeme (.number n) spelling
  | overflow {spelling : List Char} {n : Float}
      (unsigned : Pattern.Unsigned Char.isDigit spelling) (reads : readFloat? spelling = some n)
      (infinite : n.isFinite = false) :
      Lexeme (.invalid (.invalidNumber (.ofList spelling))) spelling
  | word {word : List Char} (spelled : isWord word = true) (called : Bool) :
      Lexeme (wordToken word called) word
  | stray {c : Char} (strays : isStray c = true) : Lexeme (.invalid (.unexpectedCharacter c)) [c]

/-- Behind an opening quote that none closes, all quotes come in pairs. -/
theorem exists_doubleQuotes {s : List Char} (unclosed : scanQuoted s = none) :
    ∃ text, s = doubleQuotes text := by
  fun_induction scanQuoted s with
  | case1 => exact ⟨[], rfl⟩
  | case2 s ih =>
      obtain ⟨text, rfl⟩ := ih (Option.map_eq_none_iff.mp unclosed)
      exact ⟨'"' :: text, rfl⟩
  | case3 => cases unclosed
  | case4 c s _ plain ih =>
      obtain ⟨text, rfl⟩ := ih (Option.map_eq_none_iff.mp unclosed)
      exact ⟨c :: text, (doubleQuotes_cons plain text).symm⟩

theorem not_mem_openings {c : Char} {s : List Char} (noMark : scanMark (c :: s) = none)
    (noQuote : c ≠ '"') : c ∉ openings := by
  have all : openings.all (fun d => d == '"' || (scanMark [d]).isSome) = true := rfl
  intro opens
  have marks := List.all_eq_true.mp all c opens
  rw [scanMark_eq_none_congr noMark] at marks
  simp [noQuote] at marks

theorem exists_numeral {s : List Char} (starts : startsNumeral s = true) :
    ∃ lexeme, s = lexeme ++ (numberToken s).2 ∧ Lexeme (numberToken s).1 lexeme := by
  obtain ⟨numeral, rest, scanned⟩ : ∃ numeral rest, Numeral.scan s = (numeral, rest) := ⟨_, _, rfl⟩
  obtain ⟨spelling, whole, read⟩ := Numeral.exists_read? starts
  rw [scanned] at whole read
  have taken : s.take (s.length - rest.length) = spelling := by
    rw [← whole, List.length_append, Nat.add_sub_cancel_right, List.take_left]
  rw [numberToken_of_scan scanned, taken]
  refine ⟨spelling, whole.symm, ?_⟩
  split
  next finite => exact .number (Pattern.spells_of_read? read finite)
  next infinite =>
    have unsigned := Pattern.unsigned_iff_read?.mpr ⟨numeral, read⟩
    exact .overflow unsigned (Pattern.readFloat?_eq_some_iff.mpr
      ⟨[], List.mem_cons_self, spelling, numeral, rfl, unsigned, read, rfl⟩)
      (Bool.eq_false_iff.mpr infinite)

theorem exists_lexeme_of_scanAt {c : Char} (visible : isBlank c = false) (s : List Char) :
    ∃ lexeme, c :: s = lexeme ++ (scanAt c s).2 ∧ Lexeme (scanAt c s).1 lexeme := by
  unfold scanAt
  split
  next mark rest found => exact ⟨_, eq_of_scanMark found, .mark mark⟩
  next noMark =>
    split
    next quote =>
      subst quote
      split
      next text rest found =>
        refine ⟨_, ?_, .text text⟩
        rw [(eq_of_scanQuoted found).1, List.cons_append, List.append_assoc]
        rfl
      next unclosed =>
        obtain ⟨text, rfl⟩ := exists_doubleQuotes unclosed
        exact ⟨_, (List.append_nil _).symm, .unclosed text⟩
    next noQuote =>
      split
      next starts => exact exists_numeral starts
      next noNumeral =>
        split
        next starts =>
          refine ⟨c :: s.takeWhile continuesWord, ?_, .word ?_ _⟩
          · rw [List.cons_append, List.takeWhile_append_dropWhile]
          · exact Bool.and_eq_true_iff.mpr
              ⟨starts, List.all_eq_true.mpr fun _ => List.mem_takeWhile_imp⟩
        next noWord =>
          refine ⟨[c], rfl, .stray ?_⟩
          have noDigit := mt (startsNumeral_of_isDigit · s) noNumeral
          simp [isStray, visible, not_mem_openings noMark noQuote, noDigit, noWord]

/-- A token with the blanks in front of it and the text that it takes. -/
structure Piece where
  gap : List Char
  lexeme : List Char
  token : Token
  blank : AllBlank gap
  spells : Lexeme token lexeme

def Piece.chars (piece : Piece) : List Char := piece.gap ++ piece.lexeme

theorem exists_piece {s rest : List Char} {token : Token} (scans : scan? s = some (token, rest)) :
    ∃ piece : Piece, piece.token = token ∧ s = piece.chars ++ rest := by
  unfold scan? at scans
  split at scans
  next => cases scans
  next c others skipped =>
    have visible : isBlank c = false := by
      have first := List.head?_dropWhile_not isBlank s
      rw [← skipBlanks, skipped] at first
      exact Bool.eq_false_iff.mpr (by simpa using first)
    obtain ⟨lexeme, taken, spells⟩ := exists_lexeme_of_scanAt visible others
    rw [Option.some.inj scans] at taken spells
    refine ⟨⟨s.takeWhile isBlank, lexeme, token, fun _ => List.mem_takeWhile_imp, spells⟩, rfl, ?_⟩
    calc s
      _ = s.takeWhile isBlank ++ s.dropWhile isBlank := List.takeWhile_append_dropWhile.symm
      _ = s.takeWhile isBlank ++ (lexeme ++ rest) := by rw [← skipBlanks, skipped, taken]
      _ = (s.takeWhile isBlank ++ lexeme) ++ rest := (List.append_assoc ..).symm

/-- A text that nothing closes takes all that is left. -/
theorem eq_nil_of_unterminated {s rest : List Char}
    (scans : scan? s = some (.invalid .unterminatedText, rest)) : rest = [] := by
  obtain ⟨-, -, -, -, ⟨text, other, -⟩ | ⟨-, none, -⟩⟩ := exists_scanQuoted scans rfl
  · cases other
  · exact none

/-- One call of the scanner: the token that it finds, if any is left, and the text behind it. -/
def scanNext (left : List Char) : Option Token × List Char :=
  match scan? left with
  | some (token, rest) => (some token, rest)
  | none => (none, [])

/-- What is left of a text after so many calls. -/
def leftAfter : Nat → List Char → List Char
  | 0, s => s
  | calls + 1, s => leftAfter calls (scanNext s).2

theorem scanNext_of_none {s : List Char} (none : scan? s = none) :
    scanNext s = (Option.none, []) := by
  unfold scanNext
  rw [none]

theorem scanNext_of_some {s rest : List Char} {token : Token}
    (scans : scan? s = some (token, rest)) : scanNext s = (some token, rest) := by
  unfold scanNext
  rw [scans]

theorem scan?_of_scanNext {s rest : List Char} {token : Token}
    (scans : scanNext s = (some token, rest)) : scan? s = some (token, rest) := by
  cases found : scan? s with
  | none => rw [scanNext_of_none found] at scans; cases scans
  | some scanned => rw [scanNext_of_some found] at scans; cases scans; rfl

theorem suffix_scanNext (s : List Char) : (scanNext s).2 <:+ s := by
  cases found : scan? s with
  | none => rw [scanNext_of_none found]; exact List.nil_suffix
  | some scanned => rw [scanNext_of_some found]; exact suffix_scan? found

theorem suffix_leftAfter (calls : Nat) (s : List Char) : leftAfter calls s <:+ s := by
  induction calls generalizing s with
  | zero => exact List.suffix_rfl
  | succ calls ih => exact (ih _).trans (suffix_scanNext s)

/-- At the end there is nothing more to find. -/
theorem leftAfter_nil (calls : Nat) : leftAfter calls [] = [] :=
  List.suffix_nil.mp (suffix_leftAfter calls [])

/-- The byte at which the rest of a text begins. -/
def position (s : String) (left : List Char) : String.Pos.Raw :=
  ⟨s.utf8ByteSize - (String.ofList left).utf8ByteSize⟩

section Position

variable {s : String} {left rest : List Char}

@[simp] theorem position_nil (s : String) : position s [] = s.rawEndPos := rfl

theorem position_of_append {front : List Char} (whole : front ++ left = s.toList) :
    position s left = (String.ofList front).rawEndPos := by
  obtain rfl : s = .ofList front ++ .ofList left := by
    rw [← String.ofList_append, whole, String.ofList_toList]
  unfold position String.rawEndPos
  rw [String.utf8ByteSize_append, Nat.add_sub_cancel_right]

/-- The rest of a text begins at a character, or where the text ends. -/
theorem isValid_position (behind : left <:+ s.toList) : (position s left).IsValid s := by
  obtain ⟨front, whole⟩ := behind
  refine String.Pos.Raw.isValid_iff_exists_append.mpr
    ⟨.ofList front, .ofList left, ?_, position_of_append whole⟩
  rw [← String.ofList_append, whole, String.ofList_toList]

theorem position_lt (behind : left <:+ s.toList) (later : rest <:+ left)
    (shorter : rest.length < left.length) : position s left < position s rest := by
  obtain ⟨front, whole⟩ := behind
  obtain ⟨taken, rfl⟩ := later
  have later : (front ++ taken) ++ rest = s.toList := (List.append_assoc ..).trans whole
  rw [position_of_append whole, position_of_append later, String.ofList_append,
    String.Pos.Raw.lt_iff]
  have filled : String.ofList taken ≠ "" := by
    intro none
    obtain rfl : taken = [] := String.ofList_injective none
    exact Nat.lt_irrefl _ shorter
  rw [String.byteIdx_rawEndPos, String.byteIdx_rawEndPos, String.utf8ByteSize_append]
  exact Nat.lt_add_of_pos_right (Nat.pos_of_ne_zero (mt String.utf8ByteSize_eq_zero_iff.mp filled))

end Position

/-- What a call does where the scanner stands. -/
structure Advances (s : String) (left : List Char) : Prop where
  stands : (position s left).IsValid s
  lands : (position s (scanNext left).2).IsValid s
  forward : (scanNext left).1 ≠ none → position s left < position s (scanNext left).2
  /-- Without a token, and behind a text that nothing closes, it stands at the end. -/
  finishes : (scanNext left).1 = none ∨ (scanNext left).1 = some (.invalid .unterminatedText) →
    position s (scanNext left).2 = s.rawEndPos

theorem advances {s : String} {left : List Char} (behind : left <:+ s.toList) :
    Advances s left := by
  have later := suffix_scanNext left
  refine ⟨isValid_position behind, isValid_position (later.trans behind), fun some => ?_,
    fun last => ?_⟩
  · obtain ⟨token, found⟩ := Option.ne_none_iff_exists'.mp some
    have scans := scan?_of_scanNext (Prod.ext found rfl)
    exact position_lt behind later (scan?_length scans)
  · have none : (scanNext left).2 = [] := by
      rcases last with ends | unclosed
      · cases found : scan? left with
        | none => rw [scanNext_of_none found]
        | some scanned => rw [scanNext_of_some found] at ends; cases ends
      · exact eq_nil_of_unterminated (scan?_of_scanNext (Prod.ext unclosed rfl))
    rw [none, position_nil]

/-- The pieces of a text in order, with the blanks behind the last, and the calls that find them. -/
structure Divides (s : List Char) (pieces : List Piece) (trail : List Char) : Prop where
  blank : AllBlank trail
  covers : s = pieces.flatMap Piece.chars ++ trail
  tokens_eq : tokens s = pieces.map Piece.token
  finds : ∀ calls, (scanNext (leftAfter calls s)).1 = (pieces[calls]?).map Piece.token
  leaves : ∀ calls ≤ pieces.length,
    leftAfter calls s = (pieces.drop calls).flatMap Piece.chars ++ trail

namespace Divides

variable {s rest trail : List Char} {pieces : List Piece}

theorem nil (none : scan? s = none) : Divides s [] s where
  blank := allBlank_of_scan? none
  covers := rfl
  tokens_eq := tokens_eq_nil none
  finds calls := by
    cases calls with
    | zero => exact congrArg Prod.fst (scanNext_of_none none)
    | succ calls =>
        rw [leftAfter, scanNext_of_none none, leftAfter_nil]
        rfl
  leaves calls within := by
    obtain rfl := Nat.le_zero.mp within
    rfl

theorem cons {piece : Piece} (scans : scan? s = some (piece.token, rest))
    (whole : s = piece.chars ++ rest) (divides : Divides rest pieces trail) :
    Divides s (piece :: pieces) trail where
  blank := divides.blank
  covers := by
    rw [whole, List.flatMap_cons, List.append_assoc, ← divides.covers]
  tokens_eq := by
    rw [tokens_eq_cons scans, divides.tokens_eq, List.map_cons]
  finds calls := by
    cases calls with
    | zero => exact congrArg Prod.fst (scanNext_of_some scans)
    | succ calls =>
        rw [leftAfter, scanNext_of_some scans]
        exact divides.finds calls
  leaves calls within := by
    cases calls with
    | zero =>
        rw [List.drop_zero, List.flatMap_cons, List.append_assoc, ← divides.covers]
        exact whole
    | succ calls =>
        rw [leftAfter, scanNext_of_some scans]
        exact divides.leaves calls (Nat.le_of_succ_le_succ within)

end Divides

theorem exists_divides (s : List Char) : ∃ pieces trail, Divides s pieces trail := by
  induction s using tokens.induct with
  | case1 s none => exact ⟨[], s, .nil none⟩
  | case2 s token rest scans ih =>
      obtain ⟨pieces, trail, divides⟩ := ih
      obtain ⟨piece, rfl, whole⟩ := exists_piece scans
      exact ⟨piece :: pieces, trail, divides.cons scans whole⟩

end Spreadsheet.Formula
