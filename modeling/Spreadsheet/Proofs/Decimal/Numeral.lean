import Mathlib.Data.List.TakeWhile
import Spreadsheet.Decimal.Numeral
import Spreadsheet.Proofs.Text.Blank

namespace Spreadsheet.Decimal

open Spreadsheet.Text

/-- No numeral goes on with the text. -/
def EndsNumeral (rest : List Char) : Prop :=
  ∀ c, rest.head? = some c → c.isDigit = false ∧ c ≠ '.' ∧ isPowerMark c = false

section Rest

variable {rest : List Char} (ends : EndsNumeral rest)

include ends

theorem spanDigits_append_rest (s : List Char) :
    spanDigits (s ++ rest) = ((spanDigits s).1, (spanDigits s).2 ++ rest) := by
  induction s with
  | nil =>
      have parts := takeWhile_dropWhile_append (p := Char.isDigit) (List.forall_mem_nil _)
        fun c head => (ends c head).1
      exact Prod.ext parts.1 parts.2
  | cons c others ih =>
      unfold spanDigits at ih ⊢
      rw [Prod.mk.injEq] at ih
      by_cases digit : c.isDigit = true <;> simp [digit, ih]

theorem scanFraction_append (s : List Char) :
    scanFraction (s ++ rest) = ((scanFraction s).1, (scanFraction s).2 ++ rest) := by
  cases s with
  | nil =>
      change scanFraction rest = (none, rest)
      unfold scanFraction
      split
      next others => exact absurd rfl (ends '.' rfl).2.1
      next => rfl
  | cons c others =>
      by_cases point : c = '.'
      · subst point
        exact congrArg (fun parts => (some parts.1, parts.2)) (spanDigits_append_rest ends others)
      · rw [List.cons_append]
        unfold scanFraction
        split
        next same => exact absurd (List.cons.inj same).1 point
        next => split <;> simp_all

omit ends in
theorem scanSign_append (c : Char) (s : List Char) :
    scanSign (c :: (s ++ rest)) = ((scanSign (c :: s)).1, (scanSign (c :: s)).2 ++ rest) := by
  unfold scanSign
  split <;> split <;> simp_all

/-- A power that ends its text also ends where the text goes on. -/
theorem scanPower_append {s : List Char} (whole : (scanPower s).2 = []) :
    scanPower (s ++ rest) = ((scanPower s).1, rest) := by
  cases s with
  | nil =>
      cases rest with
      | nil => rfl
      | cons c others => simp [scanPower, (ends c rfl).2.2]
  | cons mark others =>
      cases others with
      | nil => simp [scanPower, scanSign, spanDigits] at whole
      | cons c others =>
          unfold scanPower at whole ⊢
          dsimp only [List.cons_append] at whole ⊢
          rw [scanSign_append, spanDigits_append_rest ends]
          split at whole
          next counted => rw [if_pos counted, whole, if_pos counted, List.nil_append]
          next => cases whole

theorem Numeral.scan_append {s : List Char} (whole : (scan s).2 = []) :
    scan (s ++ rest) = ((scan s).1, rest) := by
  unfold scan at whole ⊢
  simp only [spanDigits_append_rest ends, scanFraction_append ends, scanPower_append ends whole]

end Rest

theorem startsNumeral_eq_cons {s : List Char} (starts : startsNumeral s = true) :
    ∃ c others, s = c :: others ∧ (c.isDigit = true ∨ c = '.') := by
  unfold startsNumeral at starts
  split at starts
  next => exact ⟨_, _, rfl, .inr rfl⟩
  next => exact ⟨_, _, rfl, .inl starts⟩
  next => cases starts

theorem startsNumeral_of_isDigit {c : Char} (digit : c.isDigit = true) (s : List Char) :
    startsNumeral (c :: s) = true := by
  unfold startsNumeral
  split
  next same => rw [(List.cons.inj same).1] at digit; cases digit
  next same => rwa [← (List.cons.inj same).1]
  next same => cases same

theorem startsNumeral_append {s : List Char} (starts : startsNumeral s = true)
    (rest : List Char) : startsNumeral (s ++ rest) = true := by
  unfold startsNumeral at starts
  split at starts
  next => exact starts
  next => exact startsNumeral_of_isDigit starts _
  next => cases starts

section Visible

variable {c : Char} {s : List Char} (member : c ∈ s)

include member

theorem visible_of_spanDigits (taken : c ∉ (spanDigits s).2) : isBlank c = false := by
  rw [← spanDigits_append s] at member
  rcases List.mem_append.mp member with front | behind
  · exact isBlank_of_isDigit (List.mem_takeWhile_imp front)
  · exact absurd behind taken

theorem visible_of_scanFraction (taken : c ∉ (scanFraction s).2) : isBlank c = false := by
  unfold scanFraction at taken
  split at taken
  next rest =>
    rcases List.mem_cons.mp member with rfl | behind
    · decide
    · exact visible_of_spanDigits behind taken
  next => exact absurd member taken

theorem visible_of_scanSign (taken : c ∉ (scanSign s).2) : isBlank c = false := by
  unfold scanSign at taken
  split at taken
  case h_1 rest | h_2 rest =>
    rcases List.mem_cons.mp member with rfl | behind
    · decide
    · exact absurd behind taken
  case h_3 => exact absurd member taken

theorem visible_of_scanPower (taken : c ∉ (scanPower s).2) : isBlank c = false := by
  unfold scanPower at taken
  split at taken
  next => cases member
  next mark rest =>
    dsimp only at taken
    split at taken
    next counted =>
      rcases List.mem_cons.mp member with rfl | behind
      · rw [Bool.and_eq_true, isPowerMark, Bool.or_eq_true, beq_iff_eq, beq_iff_eq] at counted
        rcases counted.1 with rfl | rfl <;> decide
      · by_cases signed : c ∈ (scanSign rest).2
        · exact visible_of_spanDigits signed taken
        · exact visible_of_scanSign behind signed
    next => exact absurd member taken

theorem Numeral.visible_of_scan (taken : c ∉ (Numeral.scan s).2) : isBlank c = false := by
  by_cases behindWhole : c ∈ (spanDigits s).2
  · by_cases behindFraction : c ∈ (scanFraction (spanDigits s).2).2
    · exact visible_of_scanPower behindFraction taken
    · exact visible_of_scanFraction behindWhole behindFraction
  · exact visible_of_spanDigits member behindWhole

end Visible

theorem startsNumeral_cons_iff {c : Char} {s : List Char} :
    startsNumeral (c :: s) = true ↔
      c.isDigit = true ∨ c = '.' ∧ ∃ d, s.head? = some d ∧ d.isDigit = true := by
  by_cases point : c = '.'
  · subst point
    cases s with
    | nil => simp [startsNumeral]
    | cons d others => simp [startsNumeral, show ('.').isDigit = false from rfl]
  · have plain : startsNumeral (c :: s) = c.isDigit := by
      unfold startsNumeral
      split
      next same => exact absurd (List.cons.inj same).1 point
      next same => rw [(List.cons.inj same).1]
      next same => cases same
    simp [plain, point]

theorem suffix_spanDigits (s : List Char) : (spanDigits s).2 <:+ s := List.dropWhile_suffix _

theorem suffix_scanFraction (s : List Char) : (scanFraction s).2 <:+ s := by
  unfold scanFraction
  split
  next rest => exact (suffix_spanDigits rest).trans (List.suffix_cons _ _)
  next => exact List.suffix_rfl

theorem suffix_scanSign (s : List Char) : (scanSign s).2 <:+ s := by
  unfold scanSign
  split
  next rest => exact List.suffix_cons _ _
  next rest => exact List.suffix_cons _ _
  next => exact List.suffix_rfl

theorem suffix_scanPower (s : List Char) : (scanPower s).2 <:+ s := by
  unfold scanPower
  split
  next => exact List.suffix_rfl
  next mark rest =>
    dsimp only
    split
    · exact ((suffix_spanDigits _).trans (suffix_scanSign rest)).trans (List.suffix_cons _ _)
    · exact List.suffix_rfl

theorem Numeral.suffix_scan (s : List Char) : (scan s).2 <:+ s :=
  (suffix_scanPower _).trans ((suffix_scanFraction _).trans (suffix_spanDigits s))

theorem scanFraction_of_head? {s : List Char} (plain : s.head? ≠ some '.') :
    scanFraction s = (none, s) := by
  unfold scanFraction
  split
  next => exact absurd rfl plain
  next => rfl

theorem scanSign_of_head? {s : List Char} (noMinus : s.head? ≠ some '-')
    (noPlus : s.head? ≠ some '+') : scanSign s = (false, s) := by
  unfold scanSign
  split
  next => exact absurd rfl noMinus
  next => exact absurd rfl noPlus
  next => rfl

theorem isPowerMark_iff {c : Char} : isPowerMark c = true ↔ c = 'e' ∨ c = 'E' := by
  simp [isPowerMark]

theorem scanPower_cons_append (mark c : Char) (s rest : List Char) :
    scanPower (mark :: c :: (s ++ rest)) =
      if isPowerMark mark && !(spanDigits ((scanSign (c :: s)).2 ++ rest)).1.isEmpty then
        (some ⟨(scanSign (c :: s)).1, (spanDigits ((scanSign (c :: s)).2 ++ rest)).1⟩,
          (spanDigits ((scanSign (c :: s)).2 ++ rest)).2)
      else (none, mark :: c :: (s ++ rest)) := by
  conv_lhs => unfold scanPower
  dsimp only
  rw [scanSign_append]

/-- A power takes its mark and a digit at least. -/
theorem scanPower_length_of_some {s : List Char} {power : PowerOfTen}
    (taken : (scanPower s).1 = some power) : (scanPower s).2.length + 2 ≤ s.length := by
  unfold scanPower at taken ⊢
  split at taken
  next => cases taken
  next mark rest =>
    dsimp only at taken ⊢
    split at taken
    next counted =>
      have digits := congrArg List.length (spanDigits_append (scanSign rest).2)
      have filled : 0 < (spanDigits (scanSign rest).2).1.length := by
        rw [Bool.and_eq_true, Bool.not_eq_true', List.isEmpty_eq_false_iff] at counted
        exact List.length_pos_iff.mpr counted.2
      have sign := scanSign_length rest
      rw [List.length_append] at digits
      rw [if_pos counted, List.length_cons]
      dsimp only
      omega
    next => cases taken

theorem scanPower_of_none {s : List Char} (untaken : (scanPower s).1 = none) :
    scanPower s = (none, s) := by
  unfold scanPower at untaken ⊢
  split
  next => rfl
  next =>
    dsimp only at untaken ⊢
    split at untaken
    next => cases untaken
    next plain => rw [if_neg plain]

theorem spanDigits_isEmpty_iff {s : List Char} :
    (spanDigits s).1.isEmpty = true ↔ ∀ c, s.head? = some c → c.isDigit = false := by
  cases s with
  | nil => simp [spanDigits]
  | cons c others => by_cases digit : c.isDigit = true <;> simp [spanDigits, digit]

section Halts

variable {front rest back gapped : List Char} (halts : Halts gapped)

include halts

theorem spanDigits_gapped {digits : List Char}
    (spans : spanDigits (front ++ back) = (digits, rest ++ back)) :
    spanDigits (front ++ gapped) = (digits, rest ++ gapped) := by
  obtain ⟨taken, dropped⟩ := Prod.mk.inj spans
  obtain ⟨takes, drops⟩ := span_gapped halts (fun _ => isBreak_of_isDigit) dropped
  exact Prod.ext (takes.trans taken) drops

theorem scanFraction_gapped {fraction : Option (List Char)}
    (scans : scanFraction (front ++ back) = (fraction, rest ++ back)) :
    scanFraction (front ++ gapped) = (fraction, rest ++ gapped) := by
  by_cases point : (front ++ back).head? = some '.'
  · cases front with
    | nil =>
        obtain ⟨behind, rfl⟩ := List.head?_eq_some_iff.mp point
        have shorter := (suffix_spanDigits behind).length_le
        have left : (spanDigits behind).2 = rest ++ '.' :: behind := congrArg Prod.snd scans
        rw [left, List.length_append, List.length_cons] at shorter
        omega
    | cons c others =>
        obtain rfl : c = '.' := Option.some.inj point
        obtain ⟨rfl, left⟩ := Prod.mk.inj scans
        have spans := spanDigits_gapped halts (Prod.ext rfl left)
        exact congrArg (fun parts => (some parts.1, parts.2)) spans
  · rw [scanFraction_of_head? point] at scans
    obtain ⟨rfl, left⟩ := Prod.mk.inj scans
    rw [← List.append_cancel_right left]
    exact scanFraction_of_head? fun head => point (halts.head? (by decide) head)

theorem scanPower_of_halts : scanPower gapped = (none, gapped) := by
  cases gapped with
  | nil => rfl
  | cons c others =>
      have plain : isPowerMark c = false := by
        by_contra power
        rw [Bool.not_eq_false] at power
        have ends := halts c rfl
        rcases isPowerMark_iff.mp power with rfl | rfl <;> cases ends
      unfold scanPower
      simp [plain]

theorem scanPower_cons_of_halts (mark : Char) :
    scanPower (mark :: gapped) = (none, mark :: gapped) := by
  have sign : scanSign gapped = (false, gapped) := by
    apply scanSign_of_head?
    · exact fun head => nomatch halts '-' head
    · exact fun head => nomatch halts '+' head
  have none : (spanDigits gapped).1.isEmpty = true := by
    refine spanDigits_isEmpty_iff.mpr fun c head => ?_
    by_contra digit
    rw [Bool.not_eq_false] at digit
    exact Bool.false_ne_true ((isBreak_of_isDigit digit).symm.trans (halts c head))
  unfold scanPower
  dsimp only
  rw [sign, none, Bool.not_true, Bool.and_false, if_neg Bool.false_ne_true]

theorem scanPower_gapped {power : Option PowerOfTen}
    (scans : scanPower (front ++ back) = (power, rest ++ back)) :
    scanPower (front ++ gapped) = (power, rest ++ gapped) := by
  cases power with
  | some power =>
      have wide := scanPower_length_of_some (congrArg Prod.fst scans)
      rw [scans, List.length_append, List.length_append] at wide
      obtain ⟨mark, c, others, rfl⟩ : ∃ mark c others, front = mark :: c :: others := by
        match front with
        | mark :: c :: others => exact ⟨mark, c, others, rfl⟩
        | [] | [_] =>
          simp only [List.length_nil, List.length_singleton] at wide
          omega
      simp only [List.cons_append] at scans ⊢
      rw [scanPower_cons_append] at scans ⊢
      split at scans
      next counted =>
        obtain ⟨same, left⟩ := Prod.mk.inj scans
        have spans := spanDigits_gapped halts (Prod.ext rfl left)
        rw [spans, if_pos counted, same]
      next => cases scans
  | none =>
      have untaken := scanPower_of_none (congrArg Prod.fst scans)
      have same := List.append_cancel_right (congrArg Prod.snd (untaken.symm.trans scans))
      subst same
      match front with
      | [] => exact scanPower_of_halts halts
      | [mark] => exact scanPower_cons_of_halts halts mark
      | mark :: c :: others =>
        simp only [List.cons_append] at untaken ⊢
        rw [scanPower_cons_append] at untaken ⊢
        refine if_neg fun counted => ?_
        rw [Bool.and_eq_true, Bool.not_eq_true', Bool.eq_false_iff] at counted
        obtain ⟨power, filled⟩ := counted
        by_cases none : (spanDigits ((scanSign (c :: others)).2 ++ back)).1.isEmpty = true
        · refine filled (spanDigits_isEmpty_iff.mpr fun d head => ?_)
          by_contra digit
          rw [Bool.not_eq_false] at digit
          have ends := spanDigits_isEmpty_iff.mp none d
            (halts.head? (isBreak_of_isDigit digit) head)
          rw [digit] at ends
          cases ends
        · rw [if_pos (by simp [power, none])] at untaken
          cases untaken

/-- The longest numeral at the front is the same if text behind it moves on. -/
theorem scan_gapped {numeral : Numeral}
    (scans : Numeral.scan (front ++ back) = (numeral, rest ++ back)) :
    Numeral.scan (front ++ gapped) = (numeral, rest ++ gapped) := by
  unfold Numeral.scan at scans ⊢
  obtain ⟨rfl, left⟩ := Prod.mk.inj scans
  have behind : back <:+ rest ++ back := List.suffix_append _ _
  rw [← left] at behind
  have behindFraction := behind.trans (suffix_scanPower _)
  have behindWhole := behindFraction.trans (suffix_scanFraction _)
  obtain ⟨whole, wholeLeft⟩ := behindWhole
  obtain ⟨fraction, fractionLeft⟩ := behindFraction
  have spans := spanDigits_gapped halts (Prod.ext rfl wholeLeft.symm)
  rw [← wholeLeft] at fractionLeft left ⊢
  have fractions := scanFraction_gapped halts (Prod.ext rfl fractionLeft.symm)
  rw [← fractionLeft] at left ⊢
  have powers := scanPower_gapped halts (Prod.ext rfl left)
  simp only [spans, fractions, powers]

end Halts

/-- Text that is a numeral all through, and the finite number it reads back as. -/
structure Spells (spelling : List Char) (n : Float) : Prop where
  starts : startsNumeral spelling = true
  reads : readFloat? spelling = some n
  finite : n.isFinite = true

theorem scanSign_of_startsNumeral {s : List Char} (starts : startsNumeral s = true) :
    scanSign s = (false, s) := by
  have unsigned {c : Char} (sign : c.isDigit = false ∧ c ≠ '.') : s.head? ≠ some c := by
    intro head
    obtain ⟨others, rfl⟩ := List.head?_eq_some_iff.mp head
    rcases startsNumeral_cons_iff.mp starts with digit | point
    · exact Bool.false_ne_true (sign.1.symm.trans digit)
    · exact sign.2 point.1
  exact scanSign_of_head? (unsigned (by decide)) (unsigned (by decide))

namespace Spells

variable {spelling : List Char} {n : Float}

theorem scan_eq (spells : Spells spelling n) :
    ∃ numeral, Numeral.scan spelling = (numeral, []) ∧ numeral.toFloat false = n := by
  have reads := spells.reads
  unfold readFloat? at reads
  rw [scanSign_of_startsNumeral spells.starts] at reads
  obtain ⟨numeral, read, value⟩ := Option.map_eq_some_iff.mp reads
  unfold Numeral.read? at read
  split at read
  next found scanned =>
    split at read <;> cases read
    exact ⟨numeral, scanned, value⟩
  next => cases read

theorem visible (spells : Spells spelling n) {c : Char} (member : c ∈ spelling) :
    isBlank c = false := by
  obtain ⟨numeral, scanned, -⟩ := spells.scan_eq
  refine Numeral.visible_of_scan member ?_
  rw [scanned]
  exact List.not_mem_nil

end Spells

end Spreadsheet.Decimal
