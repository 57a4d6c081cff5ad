import Mathlib.Algebra.Group.Nat.Even
import Spreadsheet.Proofs.Grid.References

namespace Spreadsheet

open Spreadsheet.Text

namespace Formula

/-- The text between quotes, with those inside it twice. -/
def quoted (s : String) : String := .ofList ('"' :: (doubleQuotes s.toList ++ ['"']))

def Token.isQuoted : Token → Bool
  | .text _ | .invalid .unterminatedText => true
  | _ => false

theorem isQuoted_wordToken (word : List Char) (called : Bool) :
    (wordToken word called).isQuoted = false := by
  unfold wordToken
  repeat' split
  all_goals rfl

theorem isQuoted_scanAt {c : Char} (plain : c ≠ '"') (s : List Char) :
    (scanAt c s).1.isQuoted = false := by
  unfold scanAt
  split
  next => rfl
  next =>
    rw [if_neg plain]
    split
    next =>
      unfold numberToken
      dsimp only
      split <;> rfl
    next =>
      split
      next => exact isQuoted_wordToken _ _
      next => rfl

theorem isQuoted_scanAt_quote (s : List Char) : (scanAt '"' s).1.isQuoted = true := by
  rw [scanAt_quote]
  split <;> rfl

section Scan

variable {s rest : List Char} {token : Token} (scans : scan? s = some (token, rest))

include scans

theorem exists_scanAt :
    ∃ lead c others, AllBlank lead ∧ s = lead ++ c :: others ∧ scanAt c others = (token, rest) := by
  unfold scan? at scans
  split at scans
  next => cases scans
  next c others skipped =>
    refine ⟨s.takeWhile isBlank, c, others, fun _ => List.mem_takeWhile_imp, ?_,
      Option.some.inj scans⟩
    rw [← skipped]
    exact List.takeWhile_append_dropWhile.symm

theorem isQuoted_of_not_mem (plain : '"' ∉ s) : token.isQuoted = false := by
  obtain ⟨lead, c, others, -, rfl, found⟩ := exists_scanAt scans
  have first : c ≠ '"' := by
    rintro rfl
    exact plain (by simp)
  have other := isQuoted_scanAt first others
  rwa [found] at other

/-- What a quote opens is a text up to its closing quote, or all of what is left. -/
theorem exists_scanQuoted (quote : token.isQuoted = true) :
    ∃ lead others, AllBlank lead ∧ s = lead ++ '"' :: others ∧
      ((∃ text, token = .text (.ofList text) ∧ scanQuoted others = some (text, rest)) ∨
        token = .invalid .unterminatedText ∧ rest = [] ∧ scanQuoted others = none) := by
  obtain ⟨lead, c, others, blank, rfl, found⟩ := exists_scanAt scans
  obtain rfl : c = '"' := by
    by_contra plain
    have other := isQuoted_scanAt plain others
    rw [found, quote] at other
    cases other
  refine ⟨lead, others, blank, rfl, ?_⟩
  rw [scanAt_quote] at found
  split at found
  next text behind closed =>
    cases found
    exact .inl ⟨text, rfl, closed⟩
  next unclosed =>
    cases found
    exact .inr ⟨rfl, rfl, unclosed⟩

theorem getLast?_of_text {text : String} (closed : token = .text text) (none : rest = []) :
    s.getLast? = some '"' := by
  subst closed none
  obtain ⟨lead, others, -, rfl, ⟨text, -, found⟩ | ⟨other, -⟩⟩ := exists_scanQuoted scans rfl
  · rw [(eq_of_scanQuoted found).1, ← List.cons_append, ← List.append_assoc]
    exact List.getLast?_concat
  · cases other

end Scan

theorem count_doubleQuotes (s : List Char) : (doubleQuotes s).count '"' = 2 * s.count '"' := by
  induction s with
  | nil => rfl
  | cons c s ih =>
      by_cases quote : c = '"'
      · subst quote
        change ('"' :: '"' :: doubleQuotes s).count '"' = _
        rw [List.count_cons_self, List.count_cons_self, List.count_cons_self, ih, Nat.mul_succ]
      · rw [doubleQuotes_cons quote, List.count_cons_of_ne quote, List.count_cons_of_ne quote, ih]

theorem odd_count_of_scanQuoted {s text rest : List Char}
    (scans : scanQuoted s = some (text, rest)) :
    Odd (s.count '"') ↔ ¬ Odd (rest.count '"') := by
  rw [(eq_of_scanQuoted scans).1, List.count_append, count_doubleQuotes, List.count_cons_self]
  grind

theorem even_count_of_scanQuoted {s : List Char} (unclosed : scanQuoted s = none) :
    Even (s.count '"') := by
  fun_induction scanQuoted s with
  | case1 => exact Even.zero
  | case2 s ih =>
      rw [List.count_cons_self, List.count_cons_self]
      exact (ih (Option.map_eq_none_iff.mp unclosed)).add even_two
  | case3 => cases unclosed
  | case4 c s _ plain ih =>
      rw [List.count_cons_of_ne plain]
      exact ih (Option.map_eq_none_iff.mp unclosed)

theorem halts_quote (back : List Char) : Halts ('"' :: back) := by
  rintro _ ⟨⟩
  decide

theorem startsCall_quote (back : List Char) : startsCall ('"' :: back) = startsCall [] := by
  have visible : isBlank '"' = false := by decide
  unfold startsCall skipBlanks
  rw [List.dropWhile_cons_of_neg (by simp [visible])]
  rfl

section Scan

variable {s rest : List Char} {token : Token} (scans : scan? s = some (token, rest))

include scans

/-- A quote behind a token is left to the next one, unless it goes on with a text. -/
theorem scan?_append_quote (closed : token ≠ .invalid .unterminatedText)
    (apart : s.getLast? ≠ some '"') (back : List Char) :
    scan? (s ++ '"' :: back) = some (token, rest ++ '"' :: back) := by
  rw [← List.append_nil s, ← List.append_nil rest] at scans
  refine scan?_gapped (halts_quote back) (startsCall_quote back) ?_ (absurd · closed) scans
  rintro text rfl head
  cases rest with
  | nil => exact absurd (getLast?_of_text (by simpa using scans) rfl rfl) apart
  | cons c others => exact head

/-- Tokens that no quote opens end before the first one. -/
theorem count_of_not_isQuoted (plain : token.isQuoted = false) : s.count '"' = rest.count '"' := by
  by_cases inside : '"' ∈ s
  · obtain ⟨front, back, rfl, outside⟩ := List.eq_append_cons_of_mem inside
    cases found : scan? front with
    | none =>
        rw [scan?_append_blank (allBlank_of_scan? found), scan?_cons (by decide)] at scans
        have quote := isQuoted_scanAt_quote back
        rw [Option.some.inj scans, plain] at quote
        cases quote
    | some scanned =>
        obtain ⟨first, behind⟩ := scanned
        have other := isQuoted_of_not_mem found outside
        have gapped := scan?_append_quote found (by rintro rfl; cases other)
          (fun last => outside (List.mem_of_getLast? last)) back
        obtain ⟨-, rfl⟩ := Prod.mk.inj (Option.some.inj (gapped.symm.trans scans))
        have outside' : '"' ∉ behind := fun member => outside ((suffix_scan? found).subset member)
        rw [List.count_append, List.count_append, List.count_eq_zero.mpr outside,
          List.count_eq_zero.mpr outside']
  · rw [List.count_eq_zero.mpr inside,
      List.count_eq_zero.mpr fun member => inside ((suffix_scan? scans).subset member)]

theorem odd_count_iff :
    Odd (s.count '"') ↔ token = .invalid .unterminatedText ∨ Odd (rest.count '"') := by
  by_cases quote : token.isQuoted = true
  · obtain ⟨lead, others, blank, rfl, parts⟩ := exists_scanQuoted scans quote
    have outside : '"' ∉ lead := fun member => Bool.false_ne_true (blank '"' member)
    rw [List.count_append, List.count_eq_zero.mpr outside, List.count_cons_self, Nat.zero_add,
      Nat.odd_add_one]
    obtain ⟨text, rfl, found⟩ | ⟨rfl, rfl, found⟩ := parts
    · rw [odd_count_of_scanQuoted found, not_not]
      exact (or_iff_right nofun).symm
    · exact iff_of_true (Nat.not_odd_iff_even.mpr (even_count_of_scanQuoted found)) (.inl rfl)
  · rw [count_of_not_isQuoted scans (Bool.eq_false_iff.mpr quote)]
    refine (or_iff_right ?_).symm
    rintro rfl
    exact quote rfl

end Scan

/-- A text ends inside of quotes when their number is odd. -/
theorem unterminated_iff_odd (s : List Char) :
    Token.invalid .unterminatedText ∈ tokens s ↔ Odd (s.count '"') := by
  induction s using tokens.induct with
  | case1 s none =>
      have outside : '"' ∉ s := fun member =>
        Bool.false_ne_true (allBlank_of_scan? none '"' member)
      rw [tokens_eq_nil none, List.count_eq_zero.mpr outside]
      simp
  | case2 s token rest scans ih =>
      rw [tokens_eq_cons scans, List.mem_cons, ih, odd_count_iff scans, eq_comm]

/-- Outside of quotes, and not just behind some, a quote begins a new token. -/
theorem tokens_append_quote {s : List Char} (closed : Even (s.count '"'))
    (apart : s.getLast? ≠ some '"') (back : List Char) :
    tokens (s ++ '"' :: back) = tokens s ++ tokens ('"' :: back) := by
  induction s using tokens.induct with
  | case1 s none =>
      rw [tokens_append_blank (allBlank_of_scan? none), tokens_eq_nil none, List.nil_append]
  | case2 s token rest scans ih =>
      obtain ⟨terminated, closed'⟩ := not_or.mp
        (mt (odd_count_iff scans).mpr (Nat.not_odd_iff_even.mpr closed))
      obtain ⟨front, rfl⟩ := suffix_scan? scans
      have apart' : rest.getLast? ≠ some '"' := by
        intro last
        have filled : rest ≠ [] := by
          rintro rfl
          cases last
        exact apart ((List.getLast?_append_of_ne_nil front filled).trans last)
      rw [tokens_eq_cons (scan?_append_quote scans terminated apart back), tokens_eq_cons scans,
        ih (Nat.not_odd_iff_even.mp closed') apart', List.cons_append]

section Quoted

variable (s : String)

theorem toList_quoted_append (back : List Char) :
    (quoted s).toList ++ back = '"' :: (doubleQuotes s.toList ++ '"' :: back) := by
  unfold quoted
  rw [String.toList_ofList, List.cons_append, List.append_assoc]
  rfl

theorem trim_quoted : trim (quoted s).toList = (quoted s).toList := by
  unfold quoted
  rw [String.toList_ofList]
  refine trim_eq_self (fun c head => ?_) fun c last => ?_
  · cases head
    decide
  · rw [← List.cons_append, List.getLast?_concat] at last
    cases last
    decide

theorem parse_quoted {options : Options} (deep : 0 < options.maxDepth.toNat) :
    options.parse ("=" ++ quoted s) = .ok (.text s) := by
  have ends : ([] : List Char).head? ≠ some '"' := nofun
  have only := tokens_quoted s ends
  rw [← toList_quoted_append, List.append_nil, tokens_nil] at only
  refine parse_of_flat deep .primary ?_ rfl
  rw [tokens_body_signed, trim_quoted, only]
  exact .text s

end Quoted

end Formula

open Formula

/-- Between other texts a text in quotes is one token, whatever it is, unless the one in front ends
inside of quotes, which are then odd in number, or with one, or the one behind begins with one.
So a text in quotes shows itself over every grid. -/
theorem Grid.quoted_inert (s : String) :
    (∀ front back : String, Even (front.toList.count '"') → front.toList.getLast? ≠ some '"' →
      back.toList.head? ≠ some '"' →
        tokens (front ++ quoted s ++ back).toList =
          tokens front.toList ++ .text s :: tokens back.toList) ∧
      (∀ front : String, Token.invalid .unterminatedText ∈ tokens front.toList ↔
        Odd (front.toList.count '"')) ∧
      ∀ (grid : Grid) (options : Options), 0 < options.maxDepth.toNat →
        grid.text options ("=" ++ quoted s) = .ok s := by
  refine ⟨fun front back closed last first => ?_, fun front => unterminated_iff_odd _,
    fun grid options deep => ?_⟩
  · rw [String.toList_append, String.toList_append, List.append_assoc, toList_quoted_append,
      tokens_append_quote closed last, tokens_quoted s first]
  · unfold Grid.text Grid.value
    rw [parse_quoted s deep]
    rfl

/-- What would leave the quotes, were its own not written twice. -/
theorem Grid.quoted_inert_reference :
    Even ("\"a\"&LEN(".toList.count '"') ∧ "\"a\"&LEN(".toList.getLast? ≠ some '"' ∧
      ")".toList.head? ≠ some '"' ∧
      tokens ("\"a\"&LEN(" ++ quoted "\"&A1&\"" ++ ")").toList =
        tokens "\"a\"&LEN(".toList ++ .text "\"&A1&\"" :: tokens ")".toList ∧
      0 < Options.standard.maxDepth.toNat ∧
      Grid.empty.text .standard ("=" ++ quoted "\"&A1&\"") = .ok "\"&A1&\"" := by
  obtain ⟨inside, -, alone⟩ := Grid.quoted_inert "\"&A1&\""
  have even : Even ("\"a\"&LEN(".toList.count '"') := by decide
  have last : "\"a\"&LEN(".toList.getLast? ≠ some '"' := by decide
  have first : ")".toList.head? ≠ some '"' := by decide
  have deep : 0 < Options.standard.maxDepth.toNat := by decide
  exact ⟨even, last, first, inside _ _ even last first, deep, alone .empty .standard deep⟩

end Spreadsheet
