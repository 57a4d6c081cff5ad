import Spreadsheet.Json.Print
import Spreadsheet.Proofs.Decimal.Print
import Spreadsheet.Proofs.Json.Escape

namespace Spreadsheet.Json

open Spreadsheet.Decimal

def sign (negative : Bool) : List Char := if negative then ['-'] else []

/-- A document that is spelled as it should be, in each number and between all quotes. -/
inductive Spelled : Json → Prop
  | null : Spelled .null
  | boolean (b : Bool) : Spelled (.boolean b)
  | number (negative : Bool) {numeral : Numeral} (valid : numeral.Valid) (plain : numeral.Plain) :
      Spelled (.number (sign negative ++ numeral.print))
  | string {spelling : List Char} (closed : Closed spelling) : Spelled (.string spelling)
  | array {items : List Json} (spelled : ∀ item ∈ items, Spelled item) : Spelled (.array items)
  | object {members : List (List Char × Json)} (closed : ∀ member ∈ members, Closed member.1)
      (spelled : ∀ member ∈ members, Spelled member.2) : Spelled (.object members)

theorem skipSpace_cons {c : Char} (visible : isSpace c = false) (s : List Char) :
    skipSpace (c :: s) = c :: s := by
  simp [skipSpace, visible]

theorem isSpace_of_isDigit {c : Char} (digit : c.isDigit = true) : isSpace c = false := by
  refine Bool.eq_false_iff.mpr fun space => ?_
  simp only [isSpace, Bool.or_eq_true, beq_iff_eq] at space
  obtain ((rfl | rfl) | rfl) | rfl := space <;> cases digit

theorem isNumber_of_plain {numeral : Numeral} (valid : numeral.Valid) (plain : numeral.Plain) :
    isNumber numeral = true := by
  unfold isNumber
  rw [Bool.and_eq_true, bne_iff_ne]
  refine ⟨?_, plain.fraction_ne_nil⟩
  split
  next none => exact absurd none valid.whole_ne_nil
  next others leading =>
    have whole := plain.whole_eq (by rw [leading]; rfl)
    rw [leading] at whole
    rw [(List.cons.inj whole).2]
    rfl
  next => rfl

theorem scanNumber_sign (negative : Bool) {s : List Char} (unsigned : s.head? ≠ some '-') :
    scanNumber (sign negative ++ s) =
      if isNumber (Numeral.scan s).1 then
        some ((sign negative ++ s).take ((sign negative ++ s).length -
          (Numeral.scan s).2.length), (Numeral.scan s).2)
      else none := by
  cases negative with
  | true => rfl
  | false =>
      change scanNumber s = _
      unfold scanNumber
      split
      next => exact absurd rfl unsigned
      next => rfl

section Number

variable {numeral : Numeral} (valid : numeral.Valid)

include valid

theorem print_ne_nil : numeral.print ≠ [] := by
  simp [Numeral.print, valid.whole_ne_nil]

theorem isDigit_of_head?_print {c : Char} (head : numeral.print.head? = some c) :
    c.isDigit = true := by
  unfold Numeral.print at head
  rw [List.append_assoc, List.head?_append_of_ne_nil _ valid.whole_ne_nil] at head
  exact valid.isDigit_whole c (List.mem_of_head? head)

/-- A numeral begins with a digit, and its sign with a minus. -/
theorem exists_eq_cons_sign (negative : Bool) :
    ∃ c others, sign negative ++ numeral.print = c :: others ∧ (c.isDigit = true ∨ c = '-') := by
  cases negative with
  | true => exact ⟨'-', numeral.print, rfl, .inr rfl⟩
  | false =>
      obtain ⟨c, others, same⟩ := List.exists_cons_of_ne_nil (print_ne_nil valid)
      exact ⟨c, others, same, .inl (isDigit_of_head?_print valid (by rw [same]; rfl))⟩

variable (plain : numeral.Plain) {rest : List Char} (ends : EndsNumeral rest)

include plain ends

theorem scanNumber_print (negative : Bool) :
    scanNumber (sign negative ++ numeral.print ++ rest) =
      some (sign negative ++ numeral.print, rest) := by
  have scans : Numeral.scan (numeral.print ++ rest) = (numeral, rest) := by
    have whole : (Numeral.scan numeral.print).2 = [] := by rw [valid.scan_print]
    rw [Numeral.scan_append ends whole, valid.scan_print]
  have unsigned : (numeral.print ++ rest).head? ≠ some '-' := by
    rw [List.head?_append_of_ne_nil _ (print_ne_nil valid)]
    intro minus
    cases isDigit_of_head?_print valid minus
  rw [List.append_assoc, scanNumber_sign negative unsigned, scans,
    if_pos (isNumber_of_plain valid plain), ← List.append_assoc, List.length_append,
    Nat.add_sub_cancel, List.take_left]

end Number

theorem readValue_of_sign {c : Char} {s : List Char} (starts : c.isDigit = true ∨ c = '-')
    (bound : Nat) :
    readValue (bound + 1) (c :: s) =
      (scanNumber (c :: s)).map fun (spelling, rest) => (.number spelling, rest) := by
  have visible : isSpace c = false := by
    rcases starts with digit | rfl
    · exact isSpace_of_isDigit digit
    · rfl
  have apart {d : Char} (letter : d.isDigit = false) (noMinus : d ≠ '-') : c ≠ d := by
    rintro rfl
    rcases starts with digit | minus
    · rw [letter] at digit
      cases digit
    · exact noMinus minus
  rw [readValue, skipSpace_cons visible]
  split
  case h_7 => rfl
  all_goals
    next same => exact absurd (List.cons.inj same).1 (apart rfl (by decide))

theorem readValue_array {c : Char} {s : List Char} (visible : isSpace c = false) (open' : c ≠ ']')
    (bound : Nat) :
    readValue (bound + 1) ('[' :: c :: s) =
      (readItems bound (c :: s)).map fun (items, rest) => (.array items, rest) := by
  have mark : isSpace '[' = false := rfl
  simp only [readValue, skipSpace_cons mark, skipSpace_cons visible]
  split
  next same => exact absurd (List.cons.inj same).1 open'
  next => rfl

theorem readValue_object {c : Char} {s : List Char} (visible : isSpace c = false) (open' : c ≠ '}')
    (bound : Nat) :
    readValue (bound + 1) ('{' :: c :: s) =
      (readMembers bound (c :: s)).map fun (members, rest) => (.object members, rest) := by
  have mark : isSpace '{' = false := rfl
  simp only [readValue, skipSpace_cons mark, skipSpace_cons visible]
  split
  next same => exact absurd (List.cons.inj same).1 open'
  next => rfl

section Member

variable {key : List Char} (closed : Closed key) {value : Json} {bound : Nat} {s rest : List Char}

include closed

theorem readMembers_last (reads : readValue bound s = some (value, '}' :: rest)) :
    readMembers (bound + 1) ('"' :: (key ++ '"' :: ':' :: s)) = some ([(key, value)], rest) := by
  rw [readMembers, skipSpace_cons (rfl : isSpace '"' = false)]
  change (scanString (key ++ '"' :: ':' :: s)).bind _ = _
  rw [closed]
  change (readValue bound s).bind _ = _
  rw [reads]
  rfl

theorem readMembers_cons (reads : readValue bound s = some (value, ',' :: rest)) :
    readMembers (bound + 1) ('"' :: (key ++ '"' :: ':' :: s)) =
      (readMembers bound rest).map fun (members, rest) => ((key, value) :: members, rest) := by
  rw [readMembers, skipSpace_cons (rfl : isSpace '"' = false)]
  change (scanString (key ++ '"' :: ':' :: s)).bind _ = _
  rw [closed]
  change (readValue bound s).bind _ = _
  rw [reads]
  change (readMembers bound rest).bind _ = _
  cases readMembers bound rest <;> rfl

end Member

/-- What may stand behind a value. -/
def Stops (rest : List Char) : Prop :=
  ∀ c, rest.head? = some c → c = ',' ∨ c = ']' ∨ c = '}'

theorem Stops.endsNumeral {rest : List Char} (stops : Stops rest) : EndsNumeral rest := by
  intro c head
  obtain rfl | rfl | rfl := stops c head <;> decide

theorem stops_printItems (items : List Json) (rest : List Char) :
    Stops (printItems items ++ rest) := by
  intro c head
  cases items with
  | nil => exact .inr (.inl (Option.some.inj head).symm)
  | cons => exact .inl (Option.some.inj head).symm

theorem stops_printMembers (members : List (List Char × Json)) (rest : List Char) :
    Stops (printMembers members ++ rest) := by
  intro c head
  cases members with
  | nil => exact .inr (.inr (Option.some.inj head).symm)
  | cons => exact .inl (Option.some.inj head).symm

/-- A value is printed without a space in front, and not as the end of a list. -/
theorem exists_eq_cons_of_spelled {json : Json} (spelled : Spelled json) :
    ∃ c others, print json = c :: others ∧ isSpace c = false ∧ c ≠ ']' := by
  cases spelled with
  | null => exact ⟨_, _, rfl, rfl, by decide⟩
  | boolean b => cases b <;> exact ⟨_, _, rfl, rfl, by decide⟩
  | number negative valid plain =>
      obtain ⟨c, others, same, digit | rfl⟩ := exists_eq_cons_sign valid negative
      · refine ⟨c, others, same, isSpace_of_isDigit digit, ?_⟩
        rintro rfl
        cases digit
      · exact ⟨_, others, same, rfl, by decide⟩
  | string closed => exact ⟨_, _, rfl, rfl, by decide⟩
  | @array items spelled => cases items <;> exact ⟨_, _, rfl, rfl, by decide⟩
  | @object members closed spelled =>
      cases members <;> exact ⟨_, _, rfl, rfl, by decide⟩

mutual

/-- Reading takes a printed value off the front. -/
theorem readValue_print {json : Json} (spelled : Spelled json) {rest : List Char}
    (stops : Stops rest) : ∀ bound, (print json).length < bound →
      readValue bound (print json ++ rest) = some (json, rest)
  | bound + 1, enough => by
    cases spelled with
    | null => rfl
    | boolean b => cases b <;> rfl
    | @number negative numeral valid plain =>
        obtain ⟨c, others, same, starts⟩ := exists_eq_cons_sign valid negative
        have scans := scanNumber_print valid plain stops.endsNumeral negative
        unfold print
        rw [same, List.cons_append] at scans ⊢
        rw [readValue_of_sign starts, scans]
        rfl
    | @string spelling closed =>
        change (scanString (spelling ++ ['"'] ++ rest)).map _ = _
        rw [List.append_assoc, List.singleton_append, closed rest]
        rfl
    | @array items spelled =>
        cases items with
        | nil => rfl
        | cons item items =>
            have reads := readItems_print spelled rest bound (Nat.lt_of_succ_lt_succ enough)
            obtain ⟨c, others, same, visible, unclosed⟩ :=
              exists_eq_cons_of_spelled (spelled item List.mem_cons_self)
            change readValue (bound + 1) ('[' :: (print item ++ printItems items ++ rest)) = _
            rw [same, List.cons_append, List.cons_append] at reads ⊢
            rw [readValue_array visible unclosed, reads]
            rfl
    | @object members closed spelled =>
        cases members with
        | nil => rfl
        | cons member members =>
            have reads := readMembers_print closed spelled rest bound
              (Nat.lt_of_succ_lt_succ enough)
            change readValue (bound + 1) ('{' :: (printString member.1 ++ ':' :: print member.2 ++
              printMembers members ++ rest)) = _
            have quoted : printString member.1 ++ ':' :: print member.2 ++
                printMembers members ++ rest = '"' :: (member.1 ++ ['"'] ++ ':' :: print member.2 ++
                  printMembers members ++ rest) := rfl
            rw [quoted] at reads ⊢
            rw [readValue_object rfl (by decide), reads]
            rfl

theorem readItems_print {item : Json} {items : List Json}
    (spelled : ∀ json ∈ item :: items, Spelled json) (rest : List Char) :
    ∀ bound, (print item ++ printItems items).length < bound →
      readItems bound (print item ++ printItems items ++ rest) = some (item :: items, rest)
  | bound + 1, enough => by
    obtain ⟨first, others⟩ := List.forall_mem_cons.mp spelled
    rw [List.length_append] at enough
    cases items with
    | nil =>
        change (print item).length + 1 < bound + 1 at enough
        have reads := readValue_print first (stops_printItems [] rest) bound (by omega)
        rw [List.append_assoc, readItems, reads]
        rfl
    | cons second items =>
        change (print item).length + ((print second ++ printItems items).length + 1) < bound + 1
          at enough
        have reads := readValue_print first (stops_printItems (second :: items) rest) bound
          (by omega)
        have behind := readItems_print others rest bound (by omega)
        rw [List.append_assoc, readItems, reads]
        change (readItems bound (print second ++ printItems items ++ rest)).bind _ = _
        rw [behind]
        rfl

theorem readMembers_print {key : List Char} {value : Json} {members : List (List Char × Json)}
    (closed : ∀ member ∈ (key, value) :: members, Closed member.1)
    (spelled : ∀ member ∈ (key, value) :: members, Spelled member.2) (rest : List Char) :
    ∀ bound, (printString key ++ ':' :: print value ++ printMembers members).length < bound →
      readMembers bound (printString key ++ ':' :: print value ++ printMembers members ++ rest) =
        some ((key, value) :: members, rest)
  | bound + 1, enough => by
    obtain ⟨closes, closed⟩ := List.forall_mem_cons.mp closed
    obtain ⟨first, others⟩ := List.forall_mem_cons.mp spelled
    dsimp only at closes first
    have text : printString key ++ ':' :: print value ++ printMembers members ++ rest =
        '"' :: (key ++ '"' :: ':' :: (print value ++ (printMembers members ++ rest))) := by
      simp [printString]
    have size : (print value).length + (printMembers members).length < bound := by
      simp [printString] at enough
      omega
    have reads := readValue_print first (stops_printMembers members rest) bound (by omega)
    rw [text]
    cases members with
    | nil => exact readMembers_last closes reads
    | cons second members =>
        have behind := readMembers_print closed others rest bound (Nat.lt_of_succ_lt (by
          simp [printMembers] at size ⊢
          omega))
        exact (readMembers_cons closes reads).trans (congrArg (Option.map _) behind)

end

theorem read?_print {json : Json} (spelled : Spelled json) : read? (print json) = some json := by
  have stops : Stops [] := nofun
  have reads := readValue_print spelled stops ((print json).length + 1) (Nat.lt_succ_self _)
  rw [List.append_nil] at reads
  unfold read?
  rw [reads]
  rfl

end Spreadsheet.Json
