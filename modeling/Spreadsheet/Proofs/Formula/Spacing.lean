import Spreadsheet.Proofs.Formula.Parse
import Spreadsheet.Proofs.Formula.Scanning

/-! Blanks between tokens. They change neither the tokens nor what is read from them. -/

namespace Spreadsheet.Formula

open Spreadsheet.Text
open Spreadsheet.Decimal

/-! Tokens in front of a gap

A scanner that leaves all of `back` to what comes after it still does so where other text stands
there, provided that this begins with a blank or a quote. -/

theorem isBreak_of_continuesWord {c : Char} (continues : continuesWord c = true) :
    isBreak c = false := by
  refine isBreak_eq_false (isBlank_of_continuesWord continues) ?_
  rintro rfl
  cases continues

section Halts

variable {front rest back gapped : List Char} (halts : Halts gapped)

include halts

theorem scanMark_gapped {mark : Mark}
    (scans : scanMark (front ++ back) = some (mark, rest ++ back)) :
    scanMark (front ++ gapped) = some (mark, rest ++ gapped) := by
  have spelled := eq_of_scanMark scans
  rw [← List.append_assoc] at spelled
  rw [spelled, List.append_assoc] at scans
  rw [List.append_cancel_right spelled, List.append_assoc]
  refine scanMark_of_heads scans fun c sign head => halts.head? ?_ head
  rcases sign with rfl | rfl <;> decide

omit halts in
theorem scanQuoted_gapped {text : List Char}
    (scans : scanQuoted (front ++ back) = some (text, rest ++ back))
    (closed : (rest ++ gapped).head? = some '"' → (rest ++ back).head? = some '"') :
    scanQuoted (front ++ gapped) = some (text, rest ++ gapped) := by
  obtain ⟨spelled, ends⟩ := eq_of_scanQuoted scans
  rw [← List.cons_append, ← List.append_assoc] at spelled
  rw [List.append_cancel_right spelled, List.append_assoc]
  exact scanQuoted_doubleQuotes text fun head => ends (closed head)

theorem numberToken_gapped {token : Token}
    (scans : numberToken (front ++ back) = (token, rest ++ back)) :
    numberToken (front ++ gapped) = (token, rest ++ gapped) := by
  obtain ⟨numeral, behind, found⟩ :
      ∃ numeral behind, Numeral.scan (front ++ back) = (numeral, behind) := ⟨_, _, rfl⟩
  rw [numberToken_of_scan found] at scans
  obtain ⟨same, rfl⟩ := Prod.mk.inj scans
  have spelling (behind : List Char) :
      (front ++ behind).take ((front ++ behind).length - (rest ++ behind).length) =
        front.take (front.length - rest.length) := by
    simp only [List.length_append, Nat.add_sub_add_right]
    exact List.take_append_of_le_length (Nat.sub_le _ _)
  rw [spelling] at same
  rw [numberToken_of_scan (scan_gapped halts found), spelling, same]

theorem startsNumeral_gapped {c : Char} (starts : startsNumeral (c :: (front ++ gapped)) = true) :
    startsNumeral (c :: (front ++ back)) = true := by
  rw [startsNumeral_cons_iff] at starts ⊢
  refine starts.imp_right fun ⟨point, d, head, digit⟩ => ⟨point, d, ?_, digit⟩
  exact halts.head? (isBreak_of_isDigit digit) head

omit halts in
/-- A point whose digit stood behind the gap would have been taken with it. -/
theorem startsNumeral_of_scan {c : Char} {token : Token}
    (starts : startsNumeral (c :: (front ++ back)) = true)
    (scans : numberToken (c :: (front ++ back)) = (token, rest ++ back)) :
    startsNumeral (c :: (front ++ gapped)) = true := by
  rcases startsNumeral_cons_iff.mp starts with digit | ⟨rfl, d, head, digit⟩
  · exact startsNumeral_of_isDigit digit _
  · cases front with
    | nil =>
        obtain ⟨others, rfl⟩ := List.head?_eq_some_iff.mp head
        have shorter := scan_point_length digit others
        rw [numberToken_of_scan (Prod.ext rfl rfl)] at scans
        have left : (Numeral.scan ('.' :: d :: others)).2 = rest ++ d :: others :=
          congrArg Prod.snd scans
        rw [left, List.length_append, List.length_cons] at shorter
        omega
    | cons first others => exact startsNumeral_cons_iff.mpr (.inr ⟨rfl, d, head, digit⟩)

omit halts in
theorem startsCall_gapped (calls : startsCall gapped = startsCall back) (rest : List Char) :
    startsCall (rest ++ gapped) = startsCall (rest ++ back) := by
  unfold startsCall skipBlanks at *
  rw [List.dropWhile_append, List.dropWhile_append]
  split
  next => exact calls
  next filled =>
    rw [List.head?_append_of_ne_nil _ (by simpa using filled),
      List.head?_append_of_ne_nil _ (by simpa using filled)]

section Token

variable {token : Token} (calls : startsCall gapped = startsCall back)
  (closed : ∀ text, token = .text text → (rest ++ gapped).head? = some '"' →
    (rest ++ back).head? = some '"')
  (filled : token = .invalid .unterminatedText → back ≠ [])

include calls closed filled

theorem scanAt_gapped {c : Char} (scans : scanAt c (front ++ back) = (token, rest ++ back)) :
    scanAt c (front ++ gapped) = (token, rest ++ gapped) := by
  unfold scanAt at scans ⊢
  split at scans
  next mark behind found =>
    obtain ⟨rfl, rfl⟩ := Prod.mk.inj scans
    rw [← List.cons_append] at found ⊢
    rw [scanMark_gapped halts found]
  next noMark =>
    rw [scanMark_eq_none_congr noMark]
    dsimp only
    split at scans
    next quote =>
      rw [if_pos quote]
      split at scans
      next text behind found =>
        obtain ⟨rfl, rfl⟩ := Prod.mk.inj scans
        rw [scanQuoted_gapped found (closed _ rfl)]
      next =>
        obtain ⟨rfl, none⟩ := Prod.mk.inj scans
        exact absurd (List.append_eq_nil_iff.mp none.symm).2 (filled rfl)
    next noQuote =>
      rw [if_neg noQuote]
      split at scans
      next starts =>
        rw [if_pos (startsNumeral_of_scan starts scans)]
        rw [← List.cons_append] at scans ⊢
        exact numberToken_gapped halts scans
      next noNumeral =>
        rw [if_neg fun starts => noNumeral (startsNumeral_gapped halts starts)]
        split at scans
        next word =>
          obtain ⟨rfl, left⟩ := Prod.mk.inj scans
          obtain ⟨taken, dropped⟩ := span_gapped halts (fun _ => isBreak_of_continuesWord) left
          rw [if_pos word, taken, dropped, left, startsCall_gapped calls]
        next noWord =>
          obtain ⟨rfl, left⟩ := Prod.mk.inj scans
          rw [if_neg noWord, List.append_cancel_right left]

theorem scan?_gapped (scans : scan? (front ++ back) = some (token, rest ++ back)) :
    scan? (front ++ gapped) = some (token, rest ++ gapped) := by
  by_cases blank : AllBlank front
  · rw [scan?_append_blank blank] at scans
    have shorter := scan?_length scans
    rw [List.length_append] at shorter
    omega
  · obtain ⟨c, others, first⟩ : ∃ c others, skipBlanks front = c :: others :=
      List.exists_cons_of_ne_nil fun none => blank (List.dropWhile_eq_nil_iff.mp none)
    have skipped (behind : List Char) : skipBlanks (front ++ behind) = c :: (others ++ behind) := by
      unfold skipBlanks at first ⊢
      rw [List.dropWhile_append, first, if_neg (by simp)]
      rfl
    unfold scan? at scans ⊢
    rw [skipped] at scans ⊢
    exact congrArg some (scanAt_gapped halts calls closed filled (Option.some.inj scans))

end Token

end Halts

/-- Scanning `s` token by token comes to `behind`, the whole of `s` or what one token leaves. -/
inductive Reaches : List Char → List Char → Prop
  | here (s : List Char) : Reaches s s
  | token {s rest behind : List Char} {token : Token} (scans : scan? s = some (token, rest))
      (later : Reaches rest behind) : Reaches s behind

/-- Where a text of two parts may be taken apart: in front up to its equals sign, just behind that,
behind any token of its body, and at the end. -/
inductive Boundary : List Char → List Char → Prop
  | start {lead behind : List Char} (blank : AllBlank lead) : Boundary lead behind
  | sign {lead behind : List Char} (blank : AllBlank lead) : Boundary (lead ++ ['=']) behind
  | token {lead sign passed behind trail : List Char} (leads : AllBlank lead)
      (signed : sign = [] ∨ sign = ['=']) (trails : AllBlank trail)
      (spans : body (lead ++ sign ++ passed ++ behind ++ trail) = passed ++ behind)
      (reaches : Reaches (passed ++ behind) behind) :
      Boundary (lead ++ sign ++ passed) (behind ++ trail)
  | finish {passed trail : List Char} (blank : AllBlank trail) : Boundary passed trail

theorem Reaches.suffix {s behind : List Char} (reaches : Reaches s behind) : behind <:+ s := by
  induction reaches with
  | here s => exact List.suffix_rfl
  | token scans _ ih => exact ih.trans (suffix_scan? scans)

theorem body_congr {s t : List Char} (same : trim s = trim t) : body s = body t := by
  unfold body
  rw [same]

theorem body_signed {lead : List Char} (blank : AllBlank lead) (s : List Char) :
    body (lead ++ '=' :: s) = trimEnd s := by
  have signed : trim (lead ++ '=' :: s) = '=' :: trimEnd s := by
    rw [trim_append_left blank, trim_eq_trimEnd,
      skipBlanks_of_head? fun c head => by cases head; decide, trimEnd_cons (by decide)]
  unfold body
  rw [signed]
  rfl

theorem body_unsigned {s : List Char} (plain : s.head? ≠ some '=') (whole : trim s = s) :
    body s = s := by
  unfold body
  rw [whole]
  split
  next => exact absurd rfl plain
  next => rfl

/-- A body as long as the text around which blanks were cut had no sign in front. -/
theorem unsigned_of_body {s : List Char} (spans : body s = s) :
    trim s = s ∧ s.head? ≠ some '=' := by
  have shorter := trim_length s
  unfold body at spans
  split at spans
  next rest signed =>
    rw [signed, spans, List.length_cons] at shorter
    omega
  next plain =>
    refine ⟨spans, fun head => ?_⟩
    obtain ⟨rest, signed⟩ := List.head?_eq_some_iff.mp head
    exact plain rest (spans.trans signed)

section Gap

variable {gap : List Char} (blank : AllBlank gap)

include blank

theorem tokens_append_blank (s : List Char) : tokens (gap ++ s) = tokens s := by
  have same := scan?_append_blank blank s
  cases found : scan? s with
  | none => rw [tokens_eq_nil found, tokens_eq_nil (same.trans found)]
  | some scanned => rw [tokens_eq_cons found, tokens_eq_cons (same.trans found)]

theorem startsCall_append_blank (s : List Char) : startsCall (gap ++ s) = startsCall s := by
  unfold startsCall
  rw [skipBlanks_append blank]

section Filled

variable (filled : gap ≠ []) {c : Char}

include filled

theorem isBlank_of_head?_gap {s : List Char} (head : (gap ++ s).head? = some c) :
    isBlank c = true := by
  rw [List.head?_append_of_ne_nil _ filled] at head
  exact blank c (List.mem_of_head? head)

theorem halts_append (s : List Char) : Halts (gap ++ s) := fun _ head =>
  Bool.or_eq_true_iff.mpr (.inl (isBlank_of_head?_gap blank filled head))

/-- No other character than a blank is the first of a text by the gap. -/
theorem head?_of_gap (visible : isBlank c = false) {rest s : List Char} (back : List Char)
    (head : (rest ++ (gap ++ s)).head? = some c) : (rest ++ back).head? = some c := by
  cases rest with
  | nil =>
      have inside := isBlank_of_head?_gap blank filled head
      exact absurd (visible.symm.trans inside) Bool.false_ne_true
  | cons d others => exact head

end Filled

/-- Blanks behind a token leave those before and behind it as they are. -/
theorem Reaches.tokens_gap {s behind passed : List Char} (reaches : Reaches s behind)
    (filled : behind ≠ []) (parts : s = passed ++ behind) :
    tokens (passed ++ (gap ++ behind)) = tokens s := by
  by_cases none : gap = []
  · rw [none, parts, List.nil_append]
  induction reaches generalizing passed with
  | here s =>
      rw [List.self_eq_append_left.mp parts]
      exact tokens_append_blank blank s
  | token scans later ih =>
      obtain ⟨front, rfl⟩ := later.suffix
      rw [parts] at scans ⊢
      have gapped := scan?_gapped (halts_append blank none _) (startsCall_append_blank blank _)
        (fun _ _ => head?_of_gap blank none (by decide) _) (fun _ => filled) scans
      rw [tokens_eq_cons scans, tokens_eq_cons gapped, ih filled rfl]

theorem tokens_trimEnd_gap (s : List Char) :
    tokens (trimEnd (gap ++ s)) = tokens (trimEnd s) := by
  by_cases none : trimEnd s = []
  · have all : AllBlank s := List.rdropWhile_eq_nil_iff.mp none
    have gaps : trimEnd gap = [] := List.rdropWhile_eq_nil_iff.mpr blank
    rw [trimEnd_append_blank all, gaps, none]
  · rw [trimEnd_append none, tokens_append_blank blank]

section Inside

variable {lead passed behind trail : List Char} (leads : AllBlank lead) (trails : AllBlank trail)
  (filled : behind ≠ []) (reaches : Reaches (passed ++ behind) behind)

include leads trails filled reaches

theorem tokens_gap_signed
    (spans : body (lead ++ '=' :: (passed ++ (behind ++ trail))) = passed ++ behind) :
    tokens (body (lead ++ '=' :: (passed ++ (gap ++ (behind ++ trail))))) =
      tokens (passed ++ behind) := by
  rw [body_signed leads, ← List.append_assoc, trimEnd_append_blank trails] at spans
  have ends := trimEnd_of_append filled spans
  rw [body_signed leads, ← List.append_assoc gap, ← List.append_assoc, trimEnd_append_blank trails,
    ← List.append_assoc, trimEnd_append (by rwa [ends]), ends, List.append_assoc]
  exact reaches.tokens_gap blank filled rfl

theorem tokens_gap_unsigned (started : passed ≠ [])
    (spans : body (lead ++ (passed ++ (behind ++ trail))) = passed ++ behind) :
    tokens (body (lead ++ (passed ++ (gap ++ (behind ++ trail))))) = tokens (passed ++ behind) := by
  have inner (s : List Char) : body (lead ++ (passed ++ (s ++ trail))) = body (passed ++ s) := by
    refine body_congr ?_
    rw [trim_append_left leads, ← List.append_assoc, trim_append_right trails]
  rw [inner] at spans
  obtain ⟨whole, plain⟩ := unsigned_of_body spans
  have first (s : List Char) : skipBlanks (passed ++ s) = passed ++ s := by
    refine skipBlanks_of_head? fun c head => visible_of_trim whole c ?_
    rwa [List.head?_append_of_ne_nil _ started] at head ⊢
  have ends : trimEnd behind = behind := by
    rw [trim_eq_trimEnd, first] at whole
    exact trimEnd_of_append filled whole
  have spaced : trimEnd (gap ++ behind) = gap ++ behind := by
    rw [trimEnd_append (by rwa [ends]), ends]
  rw [← List.append_assoc gap, inner, body_unsigned, reaches.tokens_gap blank filled rfl]
  · rwa [List.head?_append_of_ne_nil _ started] at plain ⊢
  · have last : gap ++ behind ≠ [] := List.append_ne_nil_of_right_ne_nil gap filled
    rw [trim_eq_trimEnd, first, trimEnd_append (by rwa [spaced]), spaced]

end Inside

/-- Wherever blanks are put between tokens, or at the ends, the tokens stay as they are. -/
theorem tokens_body_gap {front back : List Char} (boundary : Boundary front back) :
    tokens (body (front ++ (gap ++ back))) = tokens (body (front ++ back)) := by
  have atStart {lead : List Char} (leads : AllBlank lead) (s : List Char) :
      tokens (body (lead ++ (gap ++ s))) = tokens (body (lead ++ s)) := by
    refine congrArg tokens (body_congr ?_)
    rw [trim_append_left leads, trim_append_left leads, trim_append_left blank]
  have atEnd {trail : List Char} (trails : AllBlank trail) (s : List Char) :
      tokens (body (s ++ (gap ++ trail))) = tokens (body (s ++ trail)) := by
    refine congrArg tokens (body_congr ?_)
    rw [← List.append_assoc, trim_append_right trails, trim_append_right trails,
      trim_append_right blank]
  cases boundary with
  | start leads => exact atStart leads back
  | finish trails => exact atEnd trails front
  | sign leads =>
      rw [List.append_assoc, List.append_assoc, List.singleton_append, List.singleton_append,
        body_signed leads, body_signed leads, tokens_trimEnd_gap blank]
  | @token lead sign passed behind trail leads signed trails spans reaches =>
      by_cases done : behind = []
      · subst done
        exact atEnd trails _
      rcases signed with rfl | rfl
      · by_cases begun : passed = []
        · subst begun
          simp only [List.append_nil]
          exact atStart leads _
        · simp only [List.append_nil, List.append_assoc] at spans ⊢
          rw [spans, tokens_gap_unsigned blank leads trails done reaches begun spans]
      · simp only [List.append_assoc, List.singleton_append] at spans ⊢
        rw [spans]
        exact tokens_gap_signed blank leads trails done reaches spans

end Gap

/-- A formula is read alike whatever blanks stand at its ends, around its equals sign and between
its tokens, also if it is no formula. -/
theorem parse_spaced {front gap back : String} (boundary : Boundary front.toList back.toList)
    (blank : AllBlank gap.toList) (options : Options) :
    options.parse (front ++ gap ++ back) = options.parse (front ++ back) := by
  unfold Options.parse parse
  rw [String.toList_append, String.toList_append, String.toList_append, List.append_assoc,
    tokens_body_gap blank boundary]

/-- Between the name of a function and its parenthesis. -/
theorem parse_spaced_call :
    Boundary "=SUM".toList "(A1)".toList ∧ AllBlank " \n".toList ∧
      Options.standard.parse ("=SUM" ++ " \n" ++ "(A1)") =
        Options.standard.parse ("=SUM" ++ "(A1)") := by
  have scans : scan? ("SUM".toList ++ "(A1)".toList) = some (.name "SUM", "(A1)".toList) := by cbv
  have inside : Boundary ([] ++ ['='] ++ "SUM".toList) ("(A1)".toList ++ []) :=
    .token (List.forall_mem_nil _) (.inr rfl) (List.forall_mem_nil _) (by cbv)
      (.token scans (.here _))
  have boundary : Boundary "=SUM".toList "(A1)".toList := inside
  have blank : AllBlank " \n".toList := List.all_eq_true.mp (by decide)
  exact ⟨boundary, blank, parse_spaced boundary blank .standard⟩

end Spreadsheet.Formula
