import Mathlib
import Spreadsheet.Proofs.Text.Blank

namespace Spreadsheet.Text

/-- A class of characters that does not tell the cases of a letter apart. -/
def Uncased (p : Char → Bool) : Prop := ∀ c, p c.toUpper = p c

section Classes

variable {p : Char → Bool}

/-- The letters lie all in the class or all outside it. -/
theorem Uncased.of_letters (inside : Bool) (letters : ∀ c, c.isAlpha = true → p c = inside) :
    Uncased p := by
  intro c
  by_cases lower : c.isLower = true
  · have alpha : c.isAlpha = true := Bool.or_eq_true_iff.mpr (.inr lower)
    rw [letters c alpha, letters c.toUpper (by rwa [Char.isAlpha_toUpper_eq_isAlpha])]
  · rw [Char.toUpper_eq_of_not_isLower lower]

theorem uncased_isAlpha : Uncased Char.isAlpha := Char.isAlpha_toUpper_eq_isAlpha

theorem uncased_isDigit : Uncased Char.isDigit := .of_letters false fun c alpha => by
  by_contra digit
  rw [Bool.not_eq_false] at digit
  exact Bool.false_ne_true ((isAlpha_eq_false_of_isDigit digit).symm.trans alpha)

theorem uncased_isBlank : Uncased isBlank := .of_letters false fun _ => isBlank_of_isAlpha

theorem uncased_beq {d : Char} (plain : d.isAlpha = false) : Uncased (· == d) :=
  .of_letters false fun c alpha => by
    rw [beq_eq_false_iff_ne]
    rintro rfl
    exact Bool.false_ne_true (plain.symm.trans alpha)

theorem toUpper_eq_iff {c d : Char} (plain : d.isAlpha = false) : c.toUpper = d ↔ c = d := by
  rw [← beq_iff_eq, show (c.toUpper == d) = (c == d) from uncased_beq plain c, beq_iff_eq]

variable (uncased : Uncased p) (s : List Char)

include uncased

theorem takeWhile_upperAscii : (upperAscii s).takeWhile p = upperAscii (s.takeWhile p) := by
  unfold upperAscii
  rw [List.takeWhile_map, show p ∘ Char.toUpper = p from funext uncased]

theorem dropWhile_upperAscii : (upperAscii s).dropWhile p = upperAscii (s.dropWhile p) := by
  unfold upperAscii
  rw [List.dropWhile_map, show p ∘ Char.toUpper = p from funext uncased]

theorem all_upperAscii : (upperAscii s).all p = s.all p := by
  unfold upperAscii
  rw [List.all_map, show p ∘ Char.toUpper = p from funext uncased]

end Classes

@[simp] theorem upperAscii_upperAscii (s : List Char) :
    upperAscii (upperAscii s) = upperAscii s := by
  unfold upperAscii
  rw [List.map_map]
  exact List.map_congr_left fun c _ => Char.toUpper_toUpper_eq_toUpper c

@[simp] theorem sameAscii_upperAscii (s t : List Char) :
    sameAscii (upperAscii s) t = sameAscii s t := by
  unfold sameAscii
  rw [upperAscii_upperAscii]

theorem upperAscii_eq_self {s : List Char} (digits : ∀ c ∈ s, c.isDigit = true) :
    upperAscii s = s :=
  calc s.map Char.toUpper
    _ = s.map id := List.map_congr_left fun c member =>
      toUpper_eq_self_of_isDigit (digits c member)
    _ = s := List.map_id s

theorem upperAscii_append (s t : List Char) : upperAscii (s ++ t) = upperAscii s ++ upperAscii t :=
  List.map_append

theorem trim_upperAscii (s : List Char) : trim (upperAscii s) = upperAscii (trim s) := by
  have skip (t : List Char) : skipBlanks (upperAscii t) = upperAscii (skipBlanks t) :=
    dropWhile_upperAscii uncased_isBlank t
  have turn (t : List Char) : (upperAscii t).reverse = upperAscii t.reverse := List.map_reverse.symm
  unfold trim
  rw [skip, turn, skip, turn]

end Spreadsheet.Text
