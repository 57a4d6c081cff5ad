import Spreadsheet.Proofs.Decimal.Pattern
import Spreadsheet.Proofs.Formula.Case
import Spreadsheet.Proofs.Text.Lower

namespace Spreadsheet

open Spreadsheet.Text
open Formula (foldCase foldCase_nil foldCase_cons foldCase_eq_cons scan_foldCase scanSign_foldCase)

theorem Formula.foldCase_eq_upperAscii {s : List Char} (plain : '"' ∉ s) :
    foldCase s = upperAscii s := by
  induction s with
  | nil => exact foldCase_nil
  | cons c s ih =>
      rw [List.mem_cons, not_or] at plain
      rw [foldCase_cons (Ne.symm plain.1), ih plain.2]
      rfl

namespace Decimal

theorem read?_foldCase (s : List Char) : Numeral.read? (foldCase s) = Numeral.read? s := by
  unfold Numeral.read?
  rw [scan_foldCase]
  obtain ⟨numeral, rest⟩ := Numeral.scan s
  cases rest with
  | nil => rw [foldCase_nil]
  | cons c rest =>
      obtain ⟨others, same⟩ := foldCase_eq_cons c rest
      rw [same]

theorem readFloat?_foldCase (s : List Char) : readFloat? (foldCase s) = readFloat? s := by
  unfold readFloat?
  rw [scanSign_foldCase, read?_foldCase]

theorem readNumber?_upperAscii {s : List Char} (plain : '"' ∉ s) :
    readNumber? (upperAscii s) = readNumber? s := by
  have inside : '"' ∉ trim s := by
    obtain ⟨lead, trail, -, -, parts⟩ := exists_trim s
    rw [parts] at plain
    simp only [List.mem_append, not_or] at plain
    exact plain.2.1
  unfold readNumber?
  rw [trim_upperAscii, ← Formula.foldCase_eq_upperAscii inside, readFloat?_foldCase]

theorem spelt_of_isDigit {c : Char} (digit : c.isDigit = true) :
    numeralRanges.contains c = true :=
  CodeRanges.contains_iff.mpr ⟨(0x30, 0x39), by decide, isDigit_iff.mp digit⟩

theorem spelt_of_isBlank {c : Char} (blank : isBlank c = true) :
    numeralRanges.contains c = true := by
  obtain ⟨range, listed, within⟩ := CodeRanges.contains_iff.mp blank
  exact CodeRanges.contains_iff.mpr ⟨range, List.mem_append_left _ listed, within⟩

namespace Pattern

variable {s : List Char}

theorem Mantissa.spelt (mantissa : Mantissa Char.isDigit s) :
    ∀ c ∈ s, numeralRanges.contains c = true := by
  have point : numeralRanges.contains '.' = true := by decide
  cases mantissa with
  | whole digits => exact fun c member => spelt_of_isDigit (digits.2 c member)
  | pointed digits more =>
      exact List.forall_mem_append.mpr ⟨fun c member => spelt_of_isDigit (digits.2 c member),
        List.forall_mem_cons.mpr ⟨point, fun c member => spelt_of_isDigit (more c member)⟩⟩
  | fraction digits =>
      exact List.forall_mem_cons.mpr ⟨point, fun c member => spelt_of_isDigit (digits.2 c member)⟩

theorem spelt_of_mem_signs {sign : List Char} (signed : sign ∈ signs) :
    ∀ c ∈ sign, numeralRanges.contains c = true := by
  simp only [signs, List.mem_cons, List.not_mem_nil, or_false] at signed
  rcases signed with rfl | rfl | rfl
  · exact List.forall_mem_nil _
  · exact List.forall_mem_singleton.mpr (by decide)
  · exact List.forall_mem_singleton.mpr (by decide)

theorem Power.spelt (power : Power Char.isDigit s) :
    ∀ c ∈ s, numeralRanges.contains c = true := by
  cases power with
  | absent => exact List.forall_mem_nil _
  | marked marks signed digits =>
      refine List.forall_mem_cons.mpr ⟨?_, List.forall_mem_append.mpr
        ⟨spelt_of_mem_signs signed, fun c member => spelt_of_isDigit (digits.2 c member)⟩⟩
      rcases isPowerMark_iff.mp marks with rfl | rfl <;> decide

theorem Matches.spelt (whole : Matches Char.isDigit s) :
    ∀ c ∈ s, numeralRanges.contains c = true := by
  obtain ⟨sign, signed, _, rfl, mantissa, power, rfl, ofMantissa, ofPower⟩ := whole
  exact List.forall_mem_append.mpr ⟨spelt_of_mem_signs signed,
    List.forall_mem_append.mpr ⟨ofMantissa.spelt, ofPower.spelt⟩⟩

end Pattern

theorem spelt_of_readNumber? {s : List Char} {n : Float} (reads : readNumber? s = some n) :
    ∀ c ∈ s, numeralRanges.contains c = true := by
  have found : readFloat? (trim s) = some n := (Option.filter_eq_some_iff.mp reads).1
  obtain ⟨lead, trail, leads, trails, parts⟩ := exists_trim s
  rw [parts]
  exact List.forall_mem_append.mpr ⟨fun c member => spelt_of_isBlank (leads c member),
    List.forall_mem_append.mpr ⟨(Pattern.matches_iff_readFloat?.mpr ⟨n, found⟩).spelt,
      fun c member => spelt_of_isBlank (trails c member)⟩⟩

/-- Where one of them is a number, texts of one lower case are the same number. -/
theorem readNumber?_of_lower_eq {s t : List Char} {n : Float} (reads : readNumber? s = some n)
    (same : lower s = lower t) : readNumber? t = some n := by
  have spelt := spelt_of_readNumber? reads
  have upper := upperAscii_eq_of_lower_eq spelt same
  have plain : '"' ∉ s := fun quote => absurd (spelt '"' quote) (by decide)
  have plain' : '"' ∉ t := by
    intro quote
    have raised : '"' ∈ upperAscii s := upper ▸ List.mem_map.mpr ⟨'"', quote, rfl⟩
    obtain ⟨c, member, quoted⟩ := List.mem_map.mp raised
    exact plain (Formula.toUpper_quote.mp quoted ▸ member)
  rw [← readNumber?_upperAscii plain', ← upper, readNumber?_upperAscii plain, reads]

end Decimal

end Spreadsheet
