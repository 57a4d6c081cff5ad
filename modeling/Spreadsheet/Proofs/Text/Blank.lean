import Mathlib.Data.List.DropRight
import Spreadsheet.Proofs.Text.Ascii
import Spreadsheet.Text.Blank

namespace Spreadsheet.Text

theorem skipBlanks_of_head? {s : List Char} (first : ∀ c, s.head? = some c → isBlank c = false) :
    skipBlanks s = s := by
  cases s with
  | nil => rfl
  | cons c rest =>
      have visible := first c rfl
      exact List.dropWhile_cons_of_neg (by simp [visible])

/-- Trimming takes blanks off the ends only. -/
theorem trim_eq_self {s : List Char} (first : ∀ c, s.head? = some c → isBlank c = false)
    (last : ∀ c, s.getLast? = some c → isBlank c = false) : trim s = s := by
  unfold trim
  rw [skipBlanks_of_head? first, skipBlanks_of_head?, List.reverse_reverse]
  intro c head
  rw [List.head?_reverse] at head
  exact last c head

theorem trim_of_visible {s : List Char} (visible : ∀ c ∈ s, isBlank c = false) : trim s = s :=
  trim_eq_self (fun c head => visible c (List.mem_of_head? head))
    (fun c end' => visible c (List.mem_of_getLast? end'))

/-- Between the blanks of ASCII and the others. -/
theorem isBlank_of_printable {c : Char} (low : 0x20 < c.toNat) (high : c.toNat < 0x80) :
    isBlank c = false := by
  simp only [isBlank, blankRanges, CodeRanges.contains_cons, CodeRanges.contains_nil,
    Bool.or_false, Bool.or_eq_false_iff, Bool.and_eq_false_iff, decide_eq_false_iff_not]
  omega

theorem isBlank_of_isAlpha {c : Char} (alpha : c.isAlpha = true) : isBlank c = false := by
  rw [isAlpha_iff] at alpha
  exact isBlank_of_printable (by omega) (by omega)

theorem isBlank_of_isDigit {c : Char} (digit : c.isDigit = true) : isBlank c = false := by
  rw [isDigit_iff] at digit
  exact isBlank_of_printable (by omega) (by omega)

def AllBlank (s : List Char) : Prop := ∀ c ∈ s, isBlank c = true

/-- A text without the blanks at its end. -/
def trimEnd (s : List Char) : List Char := s.rdropWhile isBlank

theorem trim_eq_trimEnd (s : List Char) : trim s = trimEnd (skipBlanks s) := rfl

/-- A text is its trimmed one between two gaps. -/
theorem exists_trim (s : List Char) :
    ∃ lead trail, AllBlank lead ∧ AllBlank trail ∧ s = lead ++ (trim s ++ trail) := by
  refine ⟨s.takeWhile isBlank, (skipBlanks s).rtakeWhile isBlank, fun c => List.mem_takeWhile_imp,
    fun c => List.mem_rtakeWhile_imp, ?_⟩
  calc s
    _ = s.takeWhile isBlank ++ skipBlanks s := List.takeWhile_append_dropWhile.symm
    _ = s.takeWhile isBlank ++ (trim s ++ (skipBlanks s).rtakeWhile isBlank) :=
        congrArg _ (List.rdropWhile_append_rtakeWhile ..).symm

theorem mem_trim {s : List Char} {c : Char} (visible : isBlank c = false) (member : c ∈ s) :
    c ∈ trim s := by
  obtain ⟨lead, trail, leads, trails, parts⟩ := exists_trim s
  have outside {gap : List Char} (blank : AllBlank gap) : c ∉ gap := fun inside =>
    Bool.false_ne_true (visible.symm.trans (blank c inside))
  rw [parts, List.mem_append, List.mem_append] at member
  exact (member.resolve_left (outside leads)).resolve_right (outside trails)

theorem mem_of_mem_trim {s : List Char} {c : Char} (member : c ∈ trim s) : c ∈ s := by
  obtain ⟨lead, trail, -, -, parts⟩ := exists_trim s
  rw [parts]
  exact List.mem_append_right _ (List.mem_append_left _ member)

section Ends

variable {s t : List Char}

theorem skipBlanks_append (blank : AllBlank s) (t : List Char) :
    skipBlanks (s ++ t) = skipBlanks t := List.dropWhile_append_of_pos blank

theorem trim_append_left (blank : AllBlank s) (t : List Char) : trim (s ++ t) = trim t := by
  rw [trim_eq_trimEnd, skipBlanks_append blank, trim_eq_trimEnd]

theorem trimEnd_append_blank (blank : AllBlank t) (s : List Char) :
    trimEnd (s ++ t) = trimEnd s := by
  induction t using List.reverseRecOn with
  | nil => rw [List.append_nil]
  | append_singleton others last shorter =>
      obtain ⟨before, ends⟩ := List.forall_mem_append.mp blank
      unfold trimEnd at shorter ⊢
      rw [← List.append_assoc, List.rdropWhile_concat_pos _ _ _ (ends last (by simp)),
        shorter before]

theorem trimEnd_append (filled : trimEnd t ≠ []) (s : List Char) :
    trimEnd (s ++ t) = s ++ trimEnd t := by
  induction t using List.reverseRecOn with
  | nil => exact absurd rfl filled
  | append_singleton others last shorter =>
      unfold trimEnd at shorter filled ⊢
      rw [← List.append_assoc]
      by_cases blank : isBlank last = true
      · rw [List.rdropWhile_concat_pos _ _ _ blank] at filled ⊢
        rw [List.rdropWhile_concat_pos _ _ _ blank, shorter filled]
      · rw [List.rdropWhile_concat_neg _ _ _ blank, List.rdropWhile_concat_neg _ _ _ blank,
          List.append_assoc]

theorem trimEnd_cons {c : Char} (visible : isBlank c = false) (s : List Char) :
    trimEnd (c :: s) = c :: trimEnd s := by
  by_cases blank : trimEnd s = []
  · have all : AllBlank s := List.rdropWhile_eq_nil_iff.mp blank
    rw [blank]
    calc trimEnd ([c] ++ s)
      _ = trimEnd [c] := trimEnd_append_blank all [c]
      _ = [c] := List.rdropWhile_concat_neg isBlank [] c (by simp [visible])
  · exact trimEnd_append blank [c]

theorem trim_append_right (blank : AllBlank t) (s : List Char) : trim (s ++ t) = trim s := by
  by_cases front : AllBlank s
  · rw [trim_append_left front, ← List.append_nil s, trim_append_left front, ← List.append_nil t,
      trim_append_left blank]
  · have filled : skipBlanks s ≠ [] := fun none => front (List.dropWhile_eq_nil_iff.mp none)
    have skipped : skipBlanks (s ++ t) = skipBlanks s ++ t := by
      unfold skipBlanks at filled ⊢
      rw [List.dropWhile_append, if_neg (by simpa using filled)]
    rw [trim_eq_trimEnd, skipped, trimEnd_append_blank blank, trim_eq_trimEnd]

/-- On either side of a character that is no blank, trimming reaches one end. -/
theorem trim_append_cons {c : Char} (visible : isBlank c = false) (front back : List Char) :
    trim (front ++ c :: back) = skipBlanks front ++ c :: trimEnd back := by
  have ends : trimEnd (c :: back) = c :: trimEnd back := trimEnd_cons visible back
  have skipped : skipBlanks (front ++ c :: back) = skipBlanks front ++ c :: back := by
    unfold skipBlanks
    rw [List.dropWhile_append]
    split
    next none =>
      rw [List.isEmpty_iff.mp none]
      exact List.dropWhile_cons_of_neg (by simp [visible])
    next => rfl
  rw [trim_eq_trimEnd, skipped, trimEnd_append (ends ▸ List.cons_ne_nil _ _), ends]

theorem trim_skipBlanks (s : List Char) : trim (skipBlanks s) = trim s := by
  have blank : AllBlank (s.takeWhile isBlank) := fun c => List.mem_takeWhile_imp
  rw [← trim_append_left blank, skipBlanks, List.takeWhile_append_dropWhile]

theorem trim_trimEnd (s : List Char) : trim (trimEnd s) = trim s := by
  have blank : AllBlank (s.rtakeWhile isBlank) := fun c => List.mem_rtakeWhile_imp
  rw [← trim_append_right blank, trimEnd, List.rdropWhile_append_rtakeWhile]

theorem trimEnd_of_append (filled : t ≠ []) (whole : trimEnd (s ++ t) = s ++ t) :
    trimEnd t = t := by
  unfold trimEnd at whole ⊢
  rw [List.rdropWhile_eq_self_iff] at whole ⊢
  intro some
  have ends := whole (List.append_ne_nil_of_right_ne_nil s filled)
  rwa [List.getLast_append_of_ne_nil _ filled] at ends

theorem trim_trim (s : List Char) : trim (trim s) = trim s := by
  obtain ⟨lead, trail, leads, trails, parts⟩ := exists_trim s
  conv_rhs => rw [parts, trim_append_left leads, trim_append_right trails]

theorem trim_length (s : List Char) : (trim s).length ≤ s.length :=
  calc (trimEnd (skipBlanks s)).length
    _ ≤ (skipBlanks s).length := (List.rdropWhile_prefix isBlank _).length_le
    _ ≤ s.length := skipBlanks_length s

theorem visible_of_trim (whole : trim s = s) (c : Char) (head : s.head? = some c) :
    isBlank c = false := by
  by_contra blank
  rw [Bool.not_eq_false] at blank
  obtain ⟨others, rfl⟩ := List.head?_eq_some_iff.mp head
  have single : AllBlank [c] := List.forall_mem_singleton.mpr blank
  have shorter := trim_length others
  rw [← trim_append_left single, List.singleton_append, whole, List.length_cons] at shorter
  omega

end Ends

/-- A blank, or the quote in front of a text. -/
def isBreak (c : Char) : Bool := isBlank c || c == '"'

theorem isBreak_eq_false {c : Char} (visible : isBlank c = false) (plain : c ≠ '"') :
    isBreak c = false := by
  unfold isBreak
  rw [visible, Bool.false_or, beq_eq_false_iff_ne]
  exact plain

theorem isBreak_of_isDigit {c : Char} (digit : c.isDigit = true) : isBreak c = false := by
  refine isBreak_eq_false (isBlank_of_isDigit digit) ?_
  rintro rfl
  cases digit

def Halts (s : List Char) : Prop := ∀ c, s.head? = some c → isBreak c = true

section Halts

variable {front rest back gapped : List Char} (halts : Halts gapped)

include halts

theorem Halts.head? {c : Char} (inside : isBreak c = false)
    (head : (rest ++ gapped).head? = some c) : (rest ++ back).head? = some c := by
  cases rest with
  | nil => exact absurd (inside.symm.trans (halts c head)) Bool.false_ne_true
  | cons d others => exact head

/-- What a class takes off the front lies before the gap, so it takes no more and no less. -/
theorem span_gapped {p : Char → Bool} (inside : ∀ c, p c = true → isBreak c = false)
    (dropped : (front ++ back).dropWhile p = rest ++ back) :
    (front ++ gapped).takeWhile p = (front ++ back).takeWhile p ∧
      (front ++ gapped).dropWhile p = rest ++ gapped := by
  have whole := List.takeWhile_append_dropWhile (p := p) (l := front ++ back)
  rw [dropped, ← List.append_assoc] at whole
  have parts : front ++ gapped = (front ++ back).takeWhile p ++ (rest ++ gapped) := by
    rw [← List.append_assoc, List.append_cancel_right whole]
  have ends (c : Char) (head : (rest ++ back).head? = some c) : p c = false := by
    have first := List.head?_dropWhile_not p (front ++ back)
    rwa [dropped, head] at first
  rw [parts]
  refine takeWhile_dropWhile_append (fun c => List.mem_takeWhile_imp) fun c head => ?_
  by_contra taken
  rw [Bool.not_eq_false] at taken
  exact Bool.false_ne_true ((ends c (halts.head? (inside c taken) head)).symm.trans taken)

end Halts

end Spreadsheet.Text
