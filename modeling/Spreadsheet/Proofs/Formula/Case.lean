import Spreadsheet.Formula.Parse
import Spreadsheet.Proofs.Address.Case
import Spreadsheet.Proofs.Formula.Scanning
import Spreadsheet.Proofs.Text.Case

/-! Formulas in either case. Letters count as what they are only within quotes. -/

namespace Spreadsheet.Formula

open Spreadsheet.Text
open Spreadsheet.Decimal

/-- Texts that differ in the case of letters only, and of no letter between quotes. The flag tells
whether a quote is open in front of them. One that is never closed encloses nothing. -/
inductive Recased : Bool → List Char → List Char → Prop
  | nil (quoted : Bool) : Recased quoted [] []
  | outside {c d : Char} {s t : List Char} (same : c.toUpper = d.toUpper)
      (rest : Recased (c == '"') s t) : Recased false (c :: s) (d :: t)
  | inside {c : Char} {s t : List Char} (rest : Recased (c != '"') s t) :
      Recased true (c :: s) (c :: t)
  | unclosed {text t : List Char} (same : upperAscii (doubleQuotes text) = upperAscii t) :
      Recased true (doubleQuotes text) t

theorem toUpper_quote {c : Char} : c.toUpper = '"' ↔ c = '"' := toUpper_eq_iff (by decide)

theorem Recased.upperAscii_eq {quoted : Bool} {s t : List Char} (recased : Recased quoted s t) :
    upperAscii s = upperAscii t := by
  induction recased with
  | nil => rfl
  | outside same _ ih => exact congrArg₂ List.cons same ih
  | inside _ ih => exact congrArg₂ List.cons rfl ih
  | unclosed same => exact same

theorem scanQuoted_unclosed (text : List Char) : scanQuoted (doubleQuotes text) = none := by
  induction text with
  | nil => rfl
  | cons c text ih =>
      by_cases quote : c = '"'
      · subst quote
        change scanQuoted ('"' :: '"' :: doubleQuotes text) = none
        rw [scanQuoted_pair, ih]
        rfl
      · rw [doubleQuotes_cons quote, scanQuoted_cons quote, ih]
        rfl

theorem scanQuoted_upperAscii (s : List Char) :
    scanQuoted (upperAscii s) = (scanQuoted s).map (Prod.map upperAscii upperAscii) := by
  fun_induction scanQuoted s with
  | case1 => rfl
  | case2 s ih =>
      change scanQuoted ('"' :: '"' :: upperAscii s) = _
      rw [scanQuoted_pair, ih, Option.map_map, Option.map_map]
      rfl
  | case3 s plain =>
      refine scanQuoted_close fun head => ?_
      obtain ⟨c, first, upper⟩ := Option.map_eq_some_iff.mp (List.head?_map.symm.trans head)
      obtain ⟨others, rfl⟩ := List.head?_eq_some_iff.mp first
      exact plain others (by rw [toUpper_quote.mp upper])
  | case4 c s _ plain ih =>
      change scanQuoted (c.toUpper :: upperAscii s) = _
      rw [scanQuoted_cons (toUpper_quote.not.mpr plain), ih, Option.map_map, Option.map_map]
      rfl

theorem scanQuoted_none_congr {s t : List Char} (same : upperAscii s = upperAscii t)
    (unclosed : scanQuoted s = none) : scanQuoted t = none := by
  have alike := scanQuoted_upperAscii s
  rw [same, scanQuoted_upperAscii, unclosed] at alike
  exact Option.map_eq_none_iff.mp alike

/-- What scanning a quoted text yields in both cases: the same text, and behind it the rests. -/
def SameText : Option (List Char × List Char) → Option (List Char × List Char) → Prop :=
  Option.Rel fun found other => found.1 = other.1 ∧ Recased false found.2 other.2

theorem SameText.map {x y : Option (List Char × List Char)} (same : SameText x y) (c : Char) :
    SameText (x.map (Prod.map (List.cons c) id)) (y.map (Prod.map (List.cons c) id)) := by
  cases same with
  | none => exact .none
  | some found => exact .some ⟨congrArg (List.cons c) found.1, found.2⟩

theorem Recased.sameText {s t : List Char} (recased : Recased true s t) :
    SameText (scanQuoted s) (scanQuoted t) := by
  induction length : s.length using Nat.strong_induction_on generalizing s t with
  | _ n shorter =>
    subst length
    cases recased with
    | nil => exact .none
    | @unclosed text _ same =>
        have left := scanQuoted_unclosed text
        rw [left, scanQuoted_none_congr same left]
        exact .none
    | @inside c s t rest =>
        by_cases quote : c = '"'
        · subst quote
          rcases rest with _ | @⟨c, d, s, t, same, rest⟩
          · exact .some ⟨rfl, .nil false⟩
          · by_cases quote : c = '"'
            · subst quote
              obtain rfl : d = '"' := toUpper_quote.mp same.symm
              rw [scanQuoted_pair, scanQuoted_pair]
              exact (shorter _ (by simp) rest rfl).map '"'
            · have other : d ≠ '"' :=
                fun same' => quote (toUpper_quote.mp (by rw [same, same']; rfl))
              rw [scanQuoted_close (by simpa using quote), scanQuoted_close (by simpa using other)]
              exact .some ⟨rfl, .outside same rest⟩
        · rw [scanQuoted_cons quote, scanQuoted_cons quote]
          rw [bne_iff_ne.mpr quote] at rest
          exact (shorter _ (by simp) rest rfl).map c

/-- A text with every letter outside quotes in upper case. -/
def foldCase (s : List Char) : List Char :=
  match s with
  | [] => []
  | c :: rest =>
    if c = '"' then
      match _h : scanQuoted rest with
      | some (text, behind) => '"' :: (doubleQuotes text ++ '"' :: foldCase behind)
      | none => '"' :: upperAscii rest
    else c.toUpper :: foldCase rest
termination_by s.length
decreasing_by
  · have := scanQuoted_length _h
    rw [List.length_cons]
    omega
  · rw [List.length_cons]
    omega

theorem foldCase_nil : foldCase [] = [] := by rw [foldCase]

theorem foldCase_cons {c : Char} (plain : c ≠ '"') (s : List Char) :
    foldCase (c :: s) = c.toUpper :: foldCase s := by
  rw [foldCase, if_neg plain]

theorem foldCase_closed {s text rest : List Char} (found : scanQuoted s = some (text, rest)) :
    foldCase ('"' :: s) = '"' :: (doubleQuotes text ++ '"' :: foldCase rest) := by
  rw [foldCase, if_pos rfl]
  split
  next same => rw [found] at same; cases same; rfl
  next none => rw [found] at none; cases none

theorem foldCase_unclosed {s : List Char} (unclosed : scanQuoted s = none) :
    foldCase ('"' :: s) = '"' :: upperAscii s := by
  rw [foldCase, if_pos rfl]
  split
  next same => rw [unclosed] at same; cases same
  next => rfl

theorem Recased.foldCase_eq {s t : List Char} (recased : Recased false s t) :
    foldCase s = foldCase t := by
  induction length : s.length using Nat.strong_induction_on generalizing s t with
  | _ n shorter =>
    subst length
    cases recased with
    | nil => rfl
    | @outside c d s t same rest =>
        by_cases quote : c = '"'
        · subst quote
          obtain rfl : d = '"' := toUpper_quote.mp same.symm
          generalize left : scanQuoted s = found
          generalize right : scanQuoted t = other
          have alike : SameText found other := left ▸ right ▸ rest.sameText
          cases alike with
          | none => rw [foldCase_unclosed left, foldCase_unclosed right, rest.upperAscii_eq]
          | @some found other agree =>
              obtain ⟨text, behind⟩ := found
              obtain ⟨_, behind'⟩ := other
              obtain ⟨rfl, rests⟩ := agree
              have less := scanQuoted_length left
              rw [foldCase_closed left, foldCase_closed right, shorter _ (by simp; omega) rests rfl]
        · have other : d ≠ '"' := fun same' => quote (toUpper_quote.mp (by rw [same, same']; rfl))
          rw [beq_eq_false_iff_ne.mpr quote] at rest
          rw [foldCase_cons quote, foldCase_cons other, same, shorter _ (by simp) rest rfl]

theorem upperAscii_foldCase (s : List Char) : upperAscii (foldCase s) = upperAscii s := by
  fun_induction foldCase s with
  | case1 => rfl
  | case2 rest text behind found ih =>
      have spelled := (eq_of_scanQuoted found).1
      unfold upperAscii at ih ⊢
      rw [spelled]
      simp only [List.map_cons, List.map_append, ih]
  | case3 rest =>
      exact congrArg (List.cons '"') (upperAscii_upperAscii rest)
  | case4 c rest plain ih =>
      exact congrArg₂ List.cons (Char.toUpper_toUpper_eq_toUpper c) ih

@[simp] theorem length_foldCase (s : List Char) : (foldCase s).length = s.length := by
  have same := congrArg List.length (upperAscii_foldCase s)
  rwa [upperAscii, upperAscii, List.length_map, List.length_map] at same

theorem foldCase_eq_cons (c : Char) (s : List Char) :
    ∃ others, foldCase (c :: s) = c.toUpper :: others := by
  by_cases quote : c = '"'
  · subst quote
    cases found : scanQuoted s with
    | none => exact ⟨_, foldCase_unclosed found⟩
    | some parts => exact ⟨_, foldCase_closed found⟩
  · exact ⟨_, foldCase_cons quote s⟩

theorem head?_foldCase (s : List Char) : (foldCase s).head? = s.head?.map Char.toUpper := by
  cases s with
  | nil => rw [foldCase_nil]; rfl
  | cons c s =>
      obtain ⟨others, same⟩ := foldCase_eq_cons c s
      rw [same]
      rfl

theorem head?_foldCase_iff {d : Char} (plain : d.isAlpha = false) {s : List Char} :
    (foldCase s).head? = some d ↔ s.head? = some d := by
  rw [head?_foldCase, Option.map_eq_some_iff]
  simp only [toUpper_eq_iff plain, exists_eq_right]

section Classes

variable {p : Char → Bool} (uncased : Uncased p) (noQuote : p '"' = false) (s : List Char)

include uncased noQuote

theorem takeWhile_foldCase : (foldCase s).takeWhile p = upperAscii (s.takeWhile p) := by
  induction s with
  | nil => rw [foldCase_nil]; rfl
  | cons c s ih =>
      by_cases inside : p c = true
      · have plain : c ≠ '"' := by
          rintro rfl
          exact Bool.false_ne_true (noQuote.symm.trans inside)
        rw [foldCase_cons plain, List.takeWhile_cons_of_pos (by rwa [uncased]), ih,
          List.takeWhile_cons_of_pos inside]
        rfl
      · obtain ⟨others, same⟩ := foldCase_eq_cons c s
        rw [same, List.takeWhile_cons_of_neg (by rwa [uncased]), List.takeWhile_cons_of_neg inside]
        rfl

theorem dropWhile_foldCase : (foldCase s).dropWhile p = foldCase (s.dropWhile p) := by
  induction s with
  | nil => rw [foldCase_nil]; exact foldCase_nil.symm
  | cons c s ih =>
      by_cases inside : p c = true
      · have plain : c ≠ '"' := by
          rintro rfl
          exact Bool.false_ne_true (noQuote.symm.trans inside)
        rw [foldCase_cons plain, List.dropWhile_cons_of_pos (by rwa [uncased]), ih,
          List.dropWhile_cons_of_pos inside]
      · obtain ⟨others, same⟩ := foldCase_eq_cons c s
        rw [List.dropWhile_cons_of_neg inside, same, List.dropWhile_cons_of_neg (by rwa [uncased])]

end Classes

theorem skipBlanks_foldCase (s : List Char) : skipBlanks (foldCase s) = foldCase (skipBlanks s) :=
  dropWhile_foldCase uncased_isBlank (by decide) s

theorem scanQuoted_concat {c : Char} (plain : c ≠ '"') (s : List Char) :
    scanQuoted (s ++ [c]) = (scanQuoted s).map (Prod.map id (· ++ [c])) := by
  fun_induction scanQuoted s with
  | case1 =>
      rw [List.nil_append, scanQuoted_cons plain]
      rfl
  | case2 s ih =>
      rw [List.cons_append, List.cons_append, scanQuoted_pair, ih, Option.map_map, Option.map_map]
      rfl
  | case3 s ends =>
      refine scanQuoted_close fun head => ?_
      cases s with
      | nil => exact plain (Option.some.inj head)
      | cons d others => exact ends others (by rw [Option.some.inj head])
  | case4 d s _ other ih =>
      rw [List.cons_append, scanQuoted_cons other, ih, Option.map_map, Option.map_map]
      rfl

theorem foldCase_concat {c : Char} (blank : isBlank c = true) (s : List Char) :
    foldCase (s ++ [c]) = foldCase s ++ [c] := by
  have plain : c ≠ '"' := by
    rintro rfl
    cases blank
  have upper : c.toUpper = c := Char.toUpper_eq_of_not_isLower fun lower =>
    Bool.false_ne_true <|
      (isBlank_of_isAlpha (Bool.or_eq_true_iff.mpr (.inr lower))).symm.trans blank
  fun_induction foldCase s with
  | case1 => rw [List.nil_append, foldCase_cons plain, foldCase_nil, upper]
  | case2 rest text behind found ih =>
      have scans := scanQuoted_concat plain rest
      rw [found] at scans
      rw [List.cons_append, foldCase_closed scans, id, ih]
      simp only [List.cons_append, List.append_assoc]
  | case3 rest unclosed =>
      have scans := scanQuoted_concat plain rest
      rw [unclosed] at scans
      rw [List.cons_append, foldCase_unclosed scans, upperAscii, List.map_append,
        List.map_singleton, upper]
      rfl
  | case4 d rest other ih => rw [List.cons_append, foldCase_cons other, ih, List.cons_append]

theorem trimEnd_foldCase (s : List Char) : trimEnd (foldCase s) = foldCase (trimEnd s) := by
  induction s using List.reverseRecOn with
  | nil => rw [foldCase_nil]; exact foldCase_nil.symm
  | append_singleton s c ih =>
      unfold trimEnd at ih ⊢
      by_cases blank : isBlank c = true
      · rw [foldCase_concat blank, List.rdropWhile_concat_pos _ _ _ blank, ih,
          List.rdropWhile_concat_pos _ _ _ blank]
      · rw [List.rdropWhile_concat_neg _ _ _ blank, List.rdropWhile_eq_self_iff]
        intro filled ends
        have last := congrArg List.getLast? (upperAscii_foldCase (s ++ [c]))
        rw [upperAscii, List.getLast?_map, List.getLast?_eq_some_getLast filled, upperAscii,
          List.getLast?_map, List.getLast?_concat] at last
        rw [← uncased_isBlank, Option.some.inj last, uncased_isBlank] at ends
        exact blank ends

theorem body_foldCase (s : List Char) : body (foldCase s) = foldCase (body s) := by
  have trims : trim (foldCase s) = foldCase (trim s) := by
    rw [trim_eq_trimEnd, skipBlanks_foldCase, trimEnd_foldCase, trim_eq_trimEnd]
  unfold body
  rw [trims]
  cases trim s with
  | nil => rw [foldCase_nil]
  | cons c rest =>
      by_cases sign : c = '='
      · subst sign
        rw [foldCase_cons (by decide)]
        rfl
      · obtain ⟨others, same⟩ := foldCase_eq_cons c rest
        have upper : c.toUpper ≠ '=' := (toUpper_eq_iff (by decide)).not.mpr sign
        rw [same]
        split
        next signed => exact absurd (List.cons.inj signed).1 upper
        next =>
          split
          next signed => exact absurd (List.cons.inj signed).1 sign
          next => exact same.symm

theorem spanDigits_foldCase (s : List Char) :
    spanDigits (foldCase s) = ((spanDigits s).1, foldCase (spanDigits s).2) := by
  have digits : upperAscii (spanDigits s).1 = (spanDigits s).1 :=
    upperAscii_eq_self fun c => List.mem_takeWhile_imp
  exact Prod.ext ((takeWhile_foldCase uncased_isDigit (by decide) s).trans digits)
    (dropWhile_foldCase uncased_isDigit (by decide) s)

theorem scanFraction_foldCase (s : List Char) :
    scanFraction (foldCase s) = ((scanFraction s).1, foldCase (scanFraction s).2) := by
  by_cases point : s.head? = some '.'
  · obtain ⟨rest, rfl⟩ := List.head?_eq_some_iff.mp point
    rw [foldCase_cons (by decide)]
    exact congrArg (fun parts => (some parts.1, parts.2)) (spanDigits_foldCase rest)
  · have other := (head?_foldCase_iff (s := s) (show ('.').isAlpha = false by decide)).not.mpr point
    rw [scanFraction_of_head? point, scanFraction_of_head? other]

theorem scanSign_foldCase (s : List Char) :
    scanSign (foldCase s) = ((scanSign s).1, foldCase (scanSign s).2) := by
  by_cases minus : s.head? = some '-'
  · obtain ⟨rest, rfl⟩ := List.head?_eq_some_iff.mp minus
    rw [foldCase_cons (by decide)]
    rfl
  by_cases plus : s.head? = some '+'
  · obtain ⟨rest, rfl⟩ := List.head?_eq_some_iff.mp plus
    rw [foldCase_cons (by decide)]
    rfl
  rw [scanSign_of_head? minus plus, scanSign_of_head?]
  · exact (head?_foldCase_iff (by decide)).not.mpr minus
  · exact (head?_foldCase_iff (by decide)).not.mpr plus

theorem isPowerMark_toUpper (c : Char) : isPowerMark c.toUpper = isPowerMark c := by
  by_cases lower : c.isLower = true
  · have all : ∀ n < 123, 97 ≤ n → isPowerMark (Char.ofNat n).toUpper = isPowerMark (.ofNat n) := by
      decide
    obtain ⟨low, high⟩ := Bool.and_eq_true_iff.mp lower
    have low : 97 ≤ c.toNat := UInt32.le_iff_toNat_le.mp (of_decide_eq_true low)
    have high : c.toNat ≤ 122 := UInt32.le_iff_toNat_le.mp (of_decide_eq_true high)
    rw [← Char.ofNat_toNat c]
    exact all c.toNat (by omega) low
  · rw [Char.toUpper_eq_of_not_isLower lower]

theorem scanPower_foldCase (s : List Char) :
    scanPower (foldCase s) = ((scanPower s).1, foldCase (scanPower s).2) := by
  cases s with
  | nil => rw [foldCase_nil]; exact congrArg (Prod.mk _) foldCase_nil.symm
  | cons c s =>
      by_cases power : isPowerMark c = true
      · have plain : c ≠ '"' := by
          rintro rfl
          cases power
        rw [foldCase_cons plain]
        unfold scanPower
        dsimp only
        rw [isPowerMark_toUpper, scanSign_foldCase, spanDigits_foldCase]
        dsimp only
        split
        next => rfl
        next => rw [foldCase_cons plain]
      · obtain ⟨others, same⟩ := foldCase_eq_cons c s
        have none (c : Char) (s : List Char) (power : ¬isPowerMark c = true) :
            scanPower (c :: s) = (none, c :: s) := by
          unfold scanPower
          simp [power]
        rw [none c s power, same, none _ _ (by rwa [isPowerMark_toUpper])]

theorem scan_foldCase (s : List Char) :
    Numeral.scan (foldCase s) = ((Numeral.scan s).1, foldCase (Numeral.scan s).2) := by
  unfold Numeral.scan
  simp only [spanDigits_foldCase, scanFraction_foldCase, scanPower_foldCase]

theorem startsNumeral_foldCase (c : Char) (s : List Char) :
    startsNumeral (c.toUpper :: foldCase s) = startsNumeral (c :: s) := by
  have point : c.toUpper = '.' ↔ c = '.' := toUpper_eq_iff (by decide)
  rw [Bool.eq_iff_iff, startsNumeral_cons_iff, startsNumeral_cons_iff, uncased_isDigit, point,
    head?_foldCase]
  simp only [Option.map_eq_some_iff, exists_exists_and_eq_and, uncased_isDigit _]

/-- A token with its spelling in upper case. What stood between quotes is not spelling. -/
def Token.upper : Token → Token
  | .name spelling => .name (.ofList (upperAscii spelling.toList))
  | .reference spelling => .reference (.ofList (upperAscii spelling.toList))
  | .invalid (.invalidNumber spelling) =>
    .invalid (.invalidNumber (.ofList (upperAscii spelling.toList)))
  | token => token

theorem Token.upper_upper (token : Token) : token.upper.upper = token.upper := by
  cases token with
  | name | reference => simp [Token.upper]
  | invalid fault => cases fault <;> simp [Token.upper]
  | _ => rfl

theorem foldCase_symbol (mark : Mark) (rest : List Char) :
    foldCase (mark.symbol ++ rest) = mark.symbol ++ foldCase rest := by
  have plain : mark.symbol.all (fun c => c != '"' && c.toUpper == c) = true := by
    cases mark <;> decide
  generalize mark.symbol = symbol at plain
  induction symbol with
  | nil => rfl
  | cons c symbol ih =>
      rw [List.all_cons, Bool.and_eq_true, Bool.and_eq_true, bne_iff_ne, beq_iff_eq] at plain
      rw [List.cons_append, foldCase_cons plain.1.1, plain.1.2, ih plain.2, List.cons_append]

theorem scanMark_foldCase (s : List Char) :
    scanMark (foldCase s) = (scanMark s).map (Prod.map id foldCase) := by
  cases found : scanMark s with
  | some scanned =>
      obtain ⟨mark, rest⟩ := scanned
      have spelled := eq_of_scanMark found
      subst spelled
      rw [foldCase_symbol]
      refine scanMark_of_heads found fun c sign head => (head?_foldCase_iff ?_).mp head
      rcases sign with rfl | rfl <;> decide
  | none =>
      cases s with
      | nil => rw [foldCase_nil]; rfl
      | cons c s =>
          obtain ⟨others, same⟩ := foldCase_eq_cons c s
          rw [same]
          by_cases lower : c.isLower = true
          · refine scanMark_eq_none fun opens => ?_
            have all : openings.all (fun d => !d.isAlpha) = true := rfl
            have outside := List.all_eq_true.mp all _ opens
            rw [Char.isAlpha_toUpper_eq_isAlpha, Char.isAlpha, lower, Bool.or_true] at outside
            cases outside
          · rw [Char.toUpper_eq_of_not_isLower lower]
            exact scanMark_eq_none_congr found

theorem numberToken_foldCase (s : List Char) :
    Prod.map Token.upper id (numberToken (foldCase s)) =
      Prod.map Token.upper foldCase (numberToken s) := by
  have scans := scan_foldCase s
  obtain ⟨numeral, rest, found⟩ : ∃ numeral rest, Numeral.scan s = (numeral, rest) := ⟨_, _, rfl⟩
  rw [found] at scans
  rw [numberToken_of_scan scans, numberToken_of_scan found]
  refine Prod.ext ?_ rfl
  dsimp only [Prod.map]
  split
  next => rfl
  next =>
    simp only [Token.upper, String.toList_ofList, length_foldCase]
    unfold upperAscii
    rw [List.map_take, List.map_take]
    have same := upperAscii_foldCase s
    unfold upperAscii at same
    rw [same]

theorem uncased_startsWord : Uncased startsWord :=
  .of_letters true fun c alpha => by simp [startsWord, alpha]

theorem uncased_continuesWord : Uncased continuesWord :=
  .of_letters true fun c alpha => by simp [continuesWord, Char.isAlphanum, alpha]

theorem startsCall_foldCase (s : List Char) : startsCall (foldCase s) = startsCall s := by
  unfold startsCall
  rw [skipBlanks_foldCase, Bool.eq_iff_iff, beq_iff_eq, beq_iff_eq, head?_foldCase_iff (by decide)]

theorem isReference_upperAscii (word : List Char) :
    isReference (upperAscii word) = isReference word := by
  unfold isReference
  rw [Address.shape?_upperAscii]
  cases Address.shape? word with
  | none => rfl
  | some shape =>
      change decide ((upperAscii shape.letters).length ≤ 3) = decide (shape.letters.length ≤ 3)
      rw [upperAscii, List.length_map]

theorem wordToken_upperAscii (word : List Char) (called : Bool) :
    wordToken (upperAscii word) called = (wordToken word called).upper := by
  unfold wordToken
  rw [sameAscii_upperAscii, sameAscii_upperAscii, isReference_upperAscii]
  have spelled : String.ofList (upperAscii word) =
      .ofList (upperAscii (String.ofList word).toList) := by
    rw [String.toList_ofList]
  repeat' split
  all_goals first | rfl | simp only [Token.upper, spelled]

theorem scanAt_foldCase {c : Char} (plain : c ≠ '"') (s : List Char) :
    Prod.map Token.upper id (scanAt c.toUpper (foldCase s)) =
      Prod.map Token.upper foldCase (scanAt c s) := by
  have marks := scanMark_foldCase (c :: s)
  rw [foldCase_cons plain] at marks
  unfold scanAt
  rw [marks, if_neg (toUpper_quote.not.mpr plain), startsNumeral_foldCase, uncased_startsWord]
  cases scanMark (c :: s) with
  | some scanned => rfl
  | none =>
      dsimp only [Option.map_none]
      rw [if_neg plain]
      split
      next =>
        rw [← foldCase_cons plain]
        exact numberToken_foldCase (c :: s)
      next =>
        split
        next =>
          rw [takeWhile_foldCase uncased_continuesWord rfl,
            dropWhile_foldCase uncased_continuesWord rfl, startsCall_foldCase]
          refine Prod.ext ?_ rfl
          exact (congrArg Token.upper (wordToken_upperAscii (c :: _) _)).trans (Token.upper_upper _)
        next noWord =>
          have same : c.toUpper = c := Char.toUpper_eq_of_not_isLower fun lower => noWord (by
            simp [startsWord, Char.isAlpha, lower])
          rw [same]
          rfl

theorem scanAt_foldCase_quoted (s : List Char) :
    ∃ others, foldCase ('"' :: s) = '"' :: others ∧
      scanAt '"' others = Prod.map id foldCase (scanAt '"' s) := by
  have noMark (behind : List Char) : scanMark ('"' :: behind) = none := rfl
  unfold scanAt
  simp only [noMark, if_true]
  cases found : scanQuoted s with
  | none =>
      refine ⟨_, foldCase_unclosed found, ?_⟩
      rw [scanQuoted_none_congr (upperAscii_upperAscii s).symm found]
      exact congrArg (Prod.mk _) foldCase_nil.symm
  | some scanned =>
      have ends := (eq_of_scanQuoted found).2
      refine ⟨_, foldCase_closed found, ?_⟩
      rw [scanQuoted_doubleQuotes _ ((head?_foldCase_iff (by decide)).not.mpr ends)]
      rfl

theorem scan?_foldCase (s : List Char) :
    (scan? (foldCase s)).map (Prod.map Token.upper id) =
      (scan? s).map (Prod.map Token.upper foldCase) := by
  unfold scan?
  rw [skipBlanks_foldCase]
  cases skipBlanks s with
  | nil => rw [foldCase_nil]; rfl
  | cons c rest =>
      by_cases quote : c = '"'
      · subst quote
        obtain ⟨others, same, scans⟩ := scanAt_foldCase_quoted rest
        rw [same]
        dsimp only
        rw [scans]
        rfl
      · rw [foldCase_cons quote]
        exact congrArg some (scanAt_foldCase quote rest)

/-- Case outside quotes changes nothing but the spelling of tokens. -/
theorem tokens_foldCase (s : List Char) :
    (tokens (foldCase s)).map Token.upper = (tokens s).map Token.upper := by
  fun_induction tokens s with
  | case1 s ends =>
      have scans := scan?_foldCase s
      rw [ends] at scans
      rw [tokens_eq_nil (Option.map_eq_none_iff.mp scans)]
  | case2 s token rest found ih =>
      have scans := scan?_foldCase s
      rw [found] at scans
      obtain ⟨⟨token', rest'⟩, found', same⟩ := Option.map_eq_some_iff.mp scans
      obtain ⟨tokenSame, rfl⟩ := Prod.mk.inj same
      rw [tokens_eq_cons found', List.map_cons, List.map_cons]
      exact congrArg₂ List.cons tokenSame ih

theorem Recased.tokens_body {s t : List Char} (recased : Recased false s t) :
    (tokens (body s)).map Token.upper = (tokens (body t)).map Token.upper := by
  rw [← tokens_foldCase, ← body_foldCase, recased.foldCase_eq, body_foldCase, tokens_foldCase]

end Spreadsheet.Formula
