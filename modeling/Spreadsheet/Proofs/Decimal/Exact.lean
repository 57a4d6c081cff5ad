import Spreadsheet.Proofs.Decimal.Nearest
import Spreadsheet.Proofs.Decimal.Print

namespace Spreadsheet.Decimal

open Spreadsheet.Text

theorem tenTo_eq (n : Nat) : tenTo n = twoTo n * Nat.pow 5 n := Nat.mul_pow 2 5 n

/-- Digits in front of a negative power of ten. -/
def shiftedSpelling (n places : Nat) : List Char :=
  decimalDigits n ++ 'e' :: '-' :: decimalDigits places

namespace Numeral

def shifted (n places : Nat) : Numeral :=
  ⟨decimalDigits n, none, some ⟨true, decimalDigits places⟩⟩

theorem print_shifted (n places : Nat) : (shifted n places).print = shiftedSpelling n places := by
  simp [print, shifted, PowerOfTen.print, shiftedSpelling]

theorem valid_shifted (n places : Nat) : (shifted n places).Valid where
  whole_ne_nil := decimalDigits_ne_nil n
  isDigit_whole _ := isDigit_of_mem_decimalDigits
  isDigit_fraction := nofun
  power_ne_nil := by
    rintro _ ⟨⟩
    exact decimalDigits_ne_nil places
  isDigit_power := by
    rintro _ ⟨⟩ c
    exact isDigit_of_mem_decimalDigits

theorem digits_shifted (n places : Nat) : (shifted n places).digits = decimalDigits n :=
  List.append_nil _

theorem scale_shifted (n places : Nat) : (shifted n places).scale = -(places : Int) := by
  have value := decimalValue_decimalDigits places
  simp [shifted, scale, PowerOfTen.value, value]

theorem value_shifted (n places : Nat) : (shifted n places).value = (n / tenTo places : ℚ) := by
  unfold value
  rw [digits_shifted, scale_shifted, decimalValue_decimalDigits, zpow_neg, zpow_natCast, cast_tenTo,
    div_eq_mul_inv]

theorem toWord_shifted_zero (places : Nat) : (shifted 0 places).toWord Binary.double = 0 := by
  have digits : (shifted 0 places).digits = ['0'] :=
    (digits_shifted 0 places).trans (Nat.toDigits_zero 10)
  unfold toWord
  rw [digits]
  rfl

end Numeral

/-- All digits of `mantissa · 2 ^ exponent`, the places of a fraction included. -/
def exactDigits (mantissa : Nat) (exponent : Int) : Nat :=
  mantissa * twoTo exponent.toNat * Nat.pow 5 (-exponent).toNat

theorem exactDigits_ratio (mantissa : Nat) (exponent : Int) :
    (exactDigits mantissa exponent / tenTo (-exponent).toNat : ℚ) = mantissa * 2 ^ exponent := by
  have fives : ((Nat.pow 5 (-exponent).toNat : Nat) : ℚ) ≠ 0 :=
    Nat.cast_ne_zero.mpr (Nat.ne_of_gt (Nat.pow_pos (by decide)))
  unfold exactDigits
  rw [tenTo_eq]
  push_cast
  rw [mul_div_mul_right _ _ fives, Binary.cast_twoTo, Binary.cast_twoTo, mul_div_assoc,
    Binary.twoTo_ratio]

section Finite

variable {x : Float} {mantissa : Nat} {exponent : Int}
  (same : Binary.datum x = .finite false mantissa exponent)

include same

theorem toFloat_exact : (Numeral.shifted (exactDigits mantissa exponent)
    (-exponent).toNat).toFloat false = x := by
  obtain none | filled := Nat.eq_zero_or_pos mantissa
  · have zero : exactDigits mantissa exponent = 0 := by simp [exactDigits, none]
    unfold Numeral.toFloat
    rw [zero, Numeral.toWord_shifted_zero, Binary.ofWord_zero same none]
  · have valid := Numeral.valid_shifted (exactDigits mantissa exponent) (-exponent).toNat
    refine Numeral.toFloat_of_nearest (fun _ => valid.isDigit_of_mem_digits) same filled ?_
    have unit : (2 : ℚ) ^ exponent ≠ 0 := by positivity
    rw [Numeral.value_shifted, exactDigits_ratio, mul_div_cancel_right₀ _ unit]
    exact .self ..

theorem spells_exact :
    Spells (shiftedSpelling (exactDigits mantissa exponent) (-exponent).toNat) x := by
  have valid := Numeral.valid_shifted (exactDigits mantissa exponent) (-exponent).toNat
  rw [← Numeral.print_shifted]
  refine ⟨valid.startsNumeral_print, ?_, Binary.isFinite_iff_datum.mpr ⟨_, _, _, same⟩⟩
  exact (valid.readFloat?_print false).trans (congrArg some (toFloat_exact same))

end Finite

end Spreadsheet.Decimal
