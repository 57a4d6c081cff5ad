import Spreadsheet.Address
import Spreadsheet.Decimal.Numeral
import Spreadsheet.Formula.Token

namespace Spreadsheet.Formula

open Spreadsheet.Text
open Spreadsheet.Decimal

def scanMark : List Char → Option (Mark × List Char)
  | '+' :: rest => some (.plus, rest)
  | '-' :: rest => some (.minus, rest)
  | '*' :: rest => some (.star, rest)
  | '/' :: rest => some (.slash, rest)
  | '^' :: rest => some (.caret, rest)
  | '%' :: rest => some (.percent, rest)
  | '&' :: rest => some (.ampersand, rest)
  | ':' :: rest => some (.colon, rest)
  | ',' :: rest => some (.comma, rest)
  | '(' :: rest => some (.leftParen, rest)
  | ')' :: rest => some (.rightParen, rest)
  | '=' :: rest => some (.equal, rest)
  | '<' :: '=' :: rest => some (.lessEqual, rest)
  | '<' :: '>' :: rest => some (.notEqual, rest)
  | '<' :: rest => some (.lessThan, rest)
  | '>' :: '=' :: rest => some (.greaterEqual, rest)
  | '>' :: rest => some (.greaterThan, rest)
  | _ => none

/-- The text behind an opening quote up to the closing one. Two quotes stand for one inside. -/
def scanQuoted : List Char → Option (List Char × List Char)
  | [] => none
  | '"' :: '"' :: rest => (scanQuoted rest).map fun (text, rest) => ('"' :: text, rest)
  | '"' :: rest => some ([], rest)
  | c :: rest => (scanQuoted rest).map fun (text, rest) => (c :: text, rest)

def startsWord (c : Char) : Bool := c.isAlpha || c == '_' || c == '$'

def continuesWord (c : Char) : Bool := c.isAlphanum || c == '_' || c == '$' || c == '.'

/-- A word is called when a parenthesis follows it, perhaps after blanks. -/
def startsCall (s : List Char) : Bool := (skipBlanks s).head? == some '('

/-- Marks aside, up to three letters and digits. -/
def isReference (word : List Char) : Bool :=
  match Address.shape? word with
  | some shape => shape.letters.length ≤ 3
  | none => false

/-- The kind of a word depends on whether it is called. -/
def wordToken (word : List Char) (called : Bool) : Token :=
  if called then .name (.ofList word)
  else if sameAscii word ['T', 'R', 'U', 'E'] then .boolean true
  else if sameAscii word ['F', 'A', 'L', 'S', 'E'] then .boolean false
  else if isReference word then .reference (.ofList word)
  else .name (.ofList word)

def numberToken (s : List Char) : Token × List Char :=
  let scanned := Numeral.scan s
  let n := scanned.1.toFloat false
  if n.isFinite then (.number n, scanned.2)
  else
    let spelling := s.take (s.length - scanned.2.length)
    (.invalid (.invalidNumber (.ofList spelling)), scanned.2)

def scanAt (c : Char) (rest : List Char) : Token × List Char :=
  match scanMark (c :: rest) with
  | some (mark, rest) => (.mark mark, rest)
  | none =>
    if c = '"' then
      match scanQuoted rest with
      | some (text, rest) => (.text (.ofList text), rest)
      | none => (.invalid .unterminatedText, [])
    else if startsNumeral (c :: rest) then numberToken (c :: rest)
    else if startsWord c then
      let behind := rest.dropWhile continuesWord
      (wordToken (c :: rest.takeWhile continuesWord) (startsCall behind), behind)
    else (.invalid (.unexpectedCharacter c), rest)

def scan? (s : List Char) : Option (Token × List Char) :=
  match skipBlanks s with
  | [] => none
  | c :: rest => some (scanAt c rest)

theorem scanMark_length {s rest : List Char} {mark : Mark}
    (h : scanMark s = some (mark, rest)) : rest.length < s.length := by
  unfold scanMark at h
  split at h <;> cases h <;> simp only [List.length_cons] <;> omega

theorem scanQuoted_length {s text rest : List Char}
    (h : scanQuoted s = some (text, rest)) : rest.length < s.length := by
  fun_induction scanQuoted s generalizing text with
  | case1 => simp at h
  | case2 s ih =>
      obtain ⟨⟨text', rest'⟩, htext, heq⟩ := Option.map_eq_some_iff.1 h
      obtain ⟨-, rfl⟩ := Prod.mk.inj heq
      have := ih htext
      simp only [List.length_cons]
      omega
  | case3 s => simp_all
  | case4 c s _ _ ih =>
      obtain ⟨⟨text', rest'⟩, htext, heq⟩ := Option.map_eq_some_iff.1 h
      obtain ⟨-, rfl⟩ := Prod.mk.inj heq
      have := ih htext
      simp only [List.length_cons]
      omega

theorem numberToken_length {c : Char} {s : List Char}
    (h : startsNumeral (c :: s) = true) : (numberToken (c :: s)).2.length ≤ s.length := by
  have hscan := Numeral.scan_length h
  unfold numberToken
  dsimp only
  split <;> exact hscan

theorem scanAt_length (c : Char) (s : List Char) : (scanAt c s).2.length ≤ s.length := by
  unfold scanAt
  split
  next mark rest h =>
    have := scanMark_length h
    simp only [List.length_cons] at this
    dsimp only
    omega
  next =>
    split
    · split
      next text rest h =>
        have := scanQuoted_length h
        simp only
        omega
      next => simp
    · split
      next _ h => exact numberToken_length h
      next =>
        split
        · exact (List.dropWhile_sublist _).length_le
        · simp

theorem scan?_length {s rest : List Char} {token : Token}
    (h : scan? s = some (token, rest)) : rest.length < s.length := by
  have hskip := skipBlanks_length s
  unfold scan? at h
  split at h
  next => simp at h
  next c behind hs =>
    have hlength := scanAt_length c behind
    rw [Option.some.inj h] at hlength
    rw [hs, List.length_cons] at hskip
    dsimp only at hlength
    omega

/-- All tokens of a text. Text that is no token stands among them as an invalid one. -/
def tokens (s : List Char) : List Token :=
  match _h : scan? s with
  | none => []
  | some (token, rest) => token :: tokens rest
termination_by s.length
decreasing_by exact scan?_length _h

end Spreadsheet.Formula
