import Spreadsheet.Proofs.Binary.Integral
import Spreadsheet.Proofs.Decimal.Pattern
import Spreadsheet.Proofs.Formula.WellFormed
import Spreadsheet.Proofs.Grid.References
import Spreadsheet.Proofs.Grid.Stored

namespace Spreadsheet

open Spreadsheet.Decimal
open Spreadsheet.Text

namespace Decimal.Numeral

variable (numeral : Numeral)

theorem toWord_le_infinity : numeral.toWord Binary.double ≤ Binary.double.infinity := by
  have rounded (num den : Nat) : Binary.double.ofRatio num den ≤ Binary.double.infinity := by
    unfold Binary.Format.ofRatio
    split
    next => exact Nat.zero_le _
    next => exact Nat.min_le_left _ _
  unfold toWord
  dsimp only
  split
  next => exact Nat.zero_le _
  next =>
    split
    next => exact Nat.le_refl _
    next => exact rounded _ _

/-- A minus in front of a numeral negates the number, and a number too large without it is too large
with it. -/
theorem toFloat_true :
    (numeral.toFloat true).isFinite = (numeral.toFloat false).isFinite ∧
      numeral.toFloat true = -numeral.toFloat false := by
  have plain (word : Nat) : Binary.double.withSign false word = word := rfl
  unfold toFloat
  rw [plain]
  exact Binary.ofWord_withSign_true numeral.toWord_le_infinity

/-- Some digit stands where a numeral starts. -/
theorem digits_scan_ne_nil {s : List Char} (starts : startsNumeral s = true) :
    (scan s).1.digits ≠ [] := by
  obtain ⟨c, others, rfl, -⟩ := startsNumeral_eq_cons starts
  change (spanDigits (c :: others)).1 ++ _ ≠ []
  rcases startsNumeral_cons_iff.mp starts with digit | ⟨rfl, d, head, digit⟩
  · simp [spanDigits, digit]
  · obtain ⟨behind, rfl⟩ := List.head?_eq_some_iff.mp head
    change ((spanDigits (d :: behind)).1) ≠ []
    simp [spanDigits, digit]

/-- What is taken from the front of a text is a numeral all through. -/
theorem exists_read? {s : List Char} (starts : startsNumeral s = true) :
    ∃ spelling, spelling ++ (scan s).2 = s ∧ read? spelling = some (scan s).1 := by
  obtain ⟨spelling, whole⟩ := suffix_scan s
  have taken : scan (spelling ++ (scan s).2) = ((scan s).1, [] ++ (scan s).2) := by
    rw [whole]
    rfl
  have ends : Halts [] := fun _ head => by cases head
  have alone : scan (spelling ++ []) = ((scan s).1, [] ++ []) := scan_gapped ends taken
  rw [List.append_nil] at alone
  exact ⟨spelling, whole, Pattern.read?_eq_some_iff.mpr ⟨alone, digits_scan_ne_nil starts⟩⟩

end Decimal.Numeral

namespace Formula

theorem allBlank_of_tokens_eq_nil {s : List Char} (none : tokens s = []) : AllBlank s := by
  cases found : scan? s with
  | none => exact allBlank_of_scan? found
  | some scanned =>
      rw [tokens_eq_cons found] at none
      cases none

theorem tokens_of_allBlank {s : List Char} (blank : AllBlank s) : tokens s = [] := by
  rw [← List.append_nil s, tokens_append_blank blank, tokens_nil]

theorem endsNumeral_of_allBlank {s : List Char} (all : AllBlank s) : EndsNumeral s := by
  intro c head
  have blank := all c (List.mem_of_mem_head? head)
  refine ⟨?_, ?_, ?_⟩
  · by_contra digit
    rw [Bool.not_eq_false] at digit
    exact Bool.false_ne_true ((isBlank_of_isDigit digit).symm.trans blank)
  · rintro rfl
    cases blank
  · by_contra power
    rw [Bool.not_eq_false] at power
    rcases isPowerMark_iff.mp power with rfl | rfl <;> cases blank

theorem wordToken_ne_number (word : List Char) (called : Bool) (n : Float) :
    wordToken word called ≠ .number n := by
  unfold wordToken
  repeat' split
  all_goals nofun

/-- A number is scanned from a numeral only. -/
theorem scan_of_scanAt {c : Char} {s : List Char} {n : Float}
    (scans : (scanAt c s).1 = .number n) :
    startsNumeral (c :: s) = true ∧ n.isFinite = true ∧
      (Numeral.scan (c :: s)).1.toFloat false = n ∧
      (scanAt c s).2 = (Numeral.scan (c :: s)).2 := by
  unfold scanAt at scans ⊢
  split at scans
  next => cases scans
  next noMark =>
    split at scans
    next => split at scans <;> cases scans
    next noQuote =>
      split at scans
      next starts =>
        rw [if_neg noQuote, if_pos starts]
        rw [numberToken_of_scan (Prod.ext rfl rfl)] at scans ⊢
        split at scans
        next finite => cases scans; exact ⟨starts, finite, rfl, rfl⟩
        next => cases scans
      next =>
        split at scans
        next => exact absurd scans (wordToken_ne_number _ _ _)
        next => cases scans

/-- The text of a single number: blanks, a numeral all through, and blanks. -/
theorem exists_spells_of_tokens {s : List Char} {n : Float} (only : tokens s = [.number n]) :
    ∃ lead front behind, s = lead ++ (front ++ behind) ∧ AllBlank lead ∧ AllBlank behind ∧
      Spells front n := by
  cases skipped : skipBlanks s with
  | nil =>
      have none : scan? s = none := by
        unfold scan?
        rw [skipped]
      rw [tokens_eq_nil none] at only
      cases only
  | cons c others =>
      have found : scan? s = some (scanAt c others) := by
        unfold scan?
        rw [skipped]
      have scans : tokens s = (scanAt c others).1 :: tokens (scanAt c others).2 :=
        tokens_eq_cons found
      rw [scans, List.cons.injEq] at only
      obtain ⟨starts, finite, rfl, left⟩ := scan_of_scanAt only.1
      have blank := allBlank_of_tokens_eq_nil only.2
      rw [left] at blank
      obtain ⟨front, whole, read⟩ := Numeral.exists_read? starts
      refine ⟨s.takeWhile isBlank, front, _, ?_, fun _ => List.mem_takeWhile_imp, blank,
        Pattern.spells_of_read? read finite⟩
      rw [whole, ← skipped]
      exact List.takeWhile_append_dropWhile.symm

/-- One number is all of the tokens exactly if the text spells it, blanks around it aside. -/
theorem tokens_eq_number_iff {s : List Char} {n : Float} :
    tokens s = [.number n] ↔ Spells (trim s) n := by
  constructor
  · intro only
    obtain ⟨lead, front, behind, rfl, leads, blank, spells⟩ := exists_spells_of_tokens only
    rwa [trim_append_left leads, trim_append_right blank,
      trim_of_visible fun c => spells.visible]
  · intro spells
    obtain ⟨lead, trail, leads, trails, parts⟩ := exists_trim s
    calc tokens s
      _ = tokens (lead ++ (trim s ++ trail)) := congrArg tokens parts
      _ = tokens (trim s ++ trail) := tokens_append_blank leads _
      _ = .number n :: tokens trail := tokens_numeral spells (endsNumeral_of_allBlank trails)
      _ = [.number n] := by rw [tokens_of_allBlank trails]

theorem derives_numeral {spelling : List Char} {n : Float} (spells : Spells spelling n) :
    Derives .sign 0 (tokens spelling) (.number n) := by
  have only : tokens (spelling ++ []) = .number n :: tokens [] := tokens_numeral spells nofun
  rw [List.append_nil, tokens_nil] at only
  rw [only]
  exact (Derives.number n).loosen .sign (by decide)

/-- What the tokens of a number mean: the number, or the negation of the one without its minus. -/
theorem exists_derives_number {s : List Char} {n : Float} (reads : readFloat? s = some n)
    (finite : n.isFinite = true) :
    ∃ depth ≤ 1, Derives .sign depth (tokens s) (.number n) ∨
      ∃ m, n = -m ∧ Derives .sign depth (tokens s) (.unary .negate (.number m)) := by
  obtain ⟨sign, signed, spelling, numeral, rfl, -, read, rfl⟩ :=
    Pattern.readFloat?_eq_some_iff.mp reads
  simp only [Pattern.signs, List.mem_cons, List.not_mem_nil, or_false] at signed
  rcases signed with rfl | rfl | rfl
  · exact ⟨0, Nat.zero_le 1, .inl (derives_numeral (Pattern.spells_of_read? read finite))⟩
  · have plus : tokens (['+'] ++ spelling) = .mark .plus :: tokens spelling :=
      tokens_symbol .plus rfl
    rw [plus]
    exact ⟨1, Nat.le_refl 1, .inl (.plus (derives_numeral (Pattern.spells_of_read? read finite)))⟩
  · have minus : tokens (['-'] ++ spelling) = .mark .minus :: tokens spelling :=
      tokens_symbol .minus rfl
    obtain ⟨same, opposite⟩ := numeral.toFloat_true
    rw [minus]
    exact ⟨1, Nat.le_refl 1, .inr ⟨_, opposite,
      .minus (derives_numeral (Pattern.spells_of_read? read (same ▸ finite)))⟩⟩

end Formula

theorem Decimal.readNumber?_eq_some_iff {s : List Char} {n : Float} :
    readNumber? s = some n ↔ readFloat? (trim s) = some n ∧ n.isFinite = true :=
  Option.filter_eq_some_iff

namespace Grid

theorem value_number {grid : Grid} {options : Options} {source : String} {n : Float}
    (deep : 1 < options.maxDepth.toNat) (reads : readNumber? source.toList = some n) :
    grid.value options ("=" ++ source) = .ok (.number n) := by
  obtain ⟨found, finite⟩ := readNumber?_eq_some_iff.mp reads
  obtain ⟨depth, shallow, phrase⟩ := Formula.exists_derives_number found finite
  rw [← Formula.tokens_body_signed] at phrase
  have parses {e : Formula.Expr} (phrase : Formula.Derives .sign depth
      (Formula.tokens (Formula.body ("=" ++ source).toList)) e) (plain : e.operatorCount = 0) :
      options.parse ("=" ++ source) = .ok e :=
    Formula.parse_eq_ok_iff.mpr ⟨depth, phrase.loosen .comparison (Formula.Tier.rank_bounds _).2,
      by omega, plain ▸ Nat.zero_le _⟩
  unfold Grid.value
  rcases phrase with plain | ⟨m, rfl, negation⟩
  · rw [parses plain rfl]
    rfl
  · rw [parses negation rfl]
    rfl

/-- The texts of the pattern are those that spell a number, and a text is read as a number if the
number it spells is finite, blanks around it aside. It makes no difference which characters beyond
the ten digits the pattern takes for digits. Without a sign these are the texts that the scanner of
formulas takes for one number, and it takes them for the same one. Behind an equals sign they are
formulas of that value, with and without a sign, and in a cell they have it as well. -/
theorem number_readers_agree (source : String) (n : Float) :
    let s := source.toList
    (Pattern.Matches Char.isDigit (trim s) ↔ ∃ x, readFloat? (trim s) = some x) ∧
    (∀ isDigit : Char → Bool, (∀ c, c.isDigit = true → isDigit c = true) →
      (readNumber? s = some n ↔
        Pattern.Matches isDigit (trim s) ∧ readFloat? (trim s) = some n ∧ n.isFinite = true)) ∧
    (Formula.tokens s = [.number n] ↔ Pattern.Unsigned Char.isDigit (trim s) ∧
      readFloat? (trim s) = some n ∧ n.isFinite = true) ∧
    (Formula.tokens s = [.number n] → readNumber? s = some n) ∧
    (readNumber? s = some n → ∀ grid : Grid,
      grid.value .standard ("=" ++ source) = .ok (.number n) ∧
      ∀ address : Address, grid.valueAt address.row address.column = source →
        grid.typedCell address = .number n) := by
  intro s
  have scanned : Formula.tokens s = [.number n] ↔ Pattern.Unsigned Char.isDigit (trim s) ∧
      readFloat? (trim s) = some n ∧ n.isFinite = true :=
    Formula.tokens_eq_number_iff.trans Pattern.spells_iff
  refine ⟨Pattern.matches_iff_readFloat?, fun isDigit wider => ?_, scanned, fun only => ?_,
    fun reads grid => ⟨value_number (by decide) reads, ?_⟩⟩
  · rw [readNumber?_eq_some_iff, iff_and_self]
    exact fun found => (Pattern.matches_iff_readFloat?.mpr ⟨n, found.1⟩).mono wider
  · exact readNumber?_eq_some_iff.mpr (scanned.mp only).2
  · intro address holds
    exact Value.ofCellText_of_reads (holds.symm ▸ reads)

end Grid

end Spreadsheet
