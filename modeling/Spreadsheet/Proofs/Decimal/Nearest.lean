import Spreadsheet.Proofs.Binary.Exact
import Spreadsheet.Proofs.Decimal.Numeral

/-! Numerals by their values. Whatever its digits are, a numeral reads as the number nearest to its
value. -/

namespace Spreadsheet.Decimal

open Spreadsheet.Binary
open Spreadsheet.Text

theorem cast_tenTo (n : Nat) : ((tenTo n : Nat) : ℚ) = 10 ^ n := Nat.cast_pow 10 n

theorem tenTo_ratio (exponent : Int) :
    (10 : ℚ) ^ exponent.toNat / 10 ^ (-exponent).toNat = 10 ^ exponent := by
  obtain ⟨n, rfl | rfl⟩ := exponent.eq_nat_or_neg <;> simp

/-- A power of ten below a power of two, by `10 ^ 3 < 2 ^ 10` upwards of one and by
`2 ^ 23 < 10 ^ 7` downwards. -/
theorem tenTo_le_twoTo {exponent places : Int}
    (bound : 0 ≤ exponent ∧ 10 * exponent ≤ 3 * places ∨
      exponent ≤ 0 ∧ 23 * exponent ≤ 7 * places) : (10 : ℚ) ^ exponent ≤ 2 ^ places := by
  have swap (base : ℚ) (n : Nat) (e : Int) : (base ^ e) ^ n = base ^ (n * e) := by
    rw [← zpow_natCast, ← zpow_mul, mul_comm]
  have turn (base : ℚ) (n : Nat) (e : Int) : (base ^ n) ^ e = base ^ (n * e) := by
    rw [← zpow_natCast, ← zpow_mul]
  rcases bound with ⟨nonneg, bound⟩ | ⟨nonpos, bound⟩
  · refine le_of_pow_le_pow_left₀ (show 3 ≠ 0 by decide) (by positivity) ?_
    calc ((10 : ℚ) ^ exponent) ^ 3
      _ = (10 ^ 3) ^ exponent := by rw [swap, turn]
      _ ≤ (2 ^ 10) ^ exponent := zpow_le_zpow_left₀ nonneg (by norm_num) (by norm_num)
      _ = 2 ^ (10 * exponent) := turn 2 10 exponent
      _ ≤ 2 ^ (3 * places) := zpow_le_zpow_right₀ (by norm_num) bound
      _ = (2 ^ places) ^ 3 := (swap 2 3 places).symm
  · refine le_of_pow_le_pow_left₀ (show 7 ≠ 0 by decide) (by positivity) ?_
    calc ((10 : ℚ) ^ exponent) ^ 7
      _ = (10 ^ 7) ^ exponent := by rw [swap, turn]
      _ ≤ (2 ^ 23) ^ exponent := by
          obtain ⟨n, rfl⟩ := Int.exists_eq_neg_ofNat nonpos
          rw [zpow_neg, zpow_neg]
          refine inv_anti₀ (by positivity) ?_
          exact zpow_le_zpow_left₀ (Int.natCast_nonneg n) (by norm_num) (by norm_num)
      _ = 2 ^ (23 * exponent) := turn 2 23 exponent
      _ ≤ 2 ^ (7 * places) := zpow_le_zpow_right₀ (by norm_num) bound
      _ = (2 ^ places) ^ 7 := (swap 2 7 places).symm

theorem twoTo_le_tenTo {n m : Nat} (le : n ≤ 3 * m) : (2 : ℚ) ^ n ≤ 10 ^ m :=
  calc (2 : ℚ) ^ n
    _ ≤ 2 ^ (3 * m) := pow_le_pow_right₀ (by norm_num) le
    _ = (2 ^ 3) ^ m := pow_mul ..
    _ ≤ 10 ^ m := pow_le_pow_left₀ (by norm_num) (by norm_num) m

theorem foldl_digits (s : List Char) (value : Nat) :
    s.foldl (fun value c => 10 * value + digitValue c) value =
      value * tenTo s.length + decimalValue s := by
  induction s generalizing value with
  | nil => exact (Nat.mul_one value).symm
  | cons c others ih =>
      change others.foldl _ (10 * value + digitValue c) =
        value * (tenTo others.length * 10) + others.foldl _ (10 * 0 + digitValue c)
      rw [ih, ih]
      ring

theorem decimalValue_append (s t : List Char) :
    decimalValue (s ++ t) = decimalValue s * tenTo t.length + decimalValue t := by
  unfold decimalValue
  rw [List.foldl_append, foldl_digits]
  rfl

theorem decimalValue_cons (c : Char) (s : List Char) :
    decimalValue (c :: s) = digitValue c * tenTo s.length + decimalValue s := by
  have single : decimalValue [c] = digitValue c := Nat.zero_add _
  rw [← List.singleton_append, decimalValue_append, single]

theorem decimalValue_lt {s : List Char} (isDigit : ∀ c ∈ s, c.isDigit = true) :
    decimalValue s < tenTo s.length := by
  induction s with
  | nil => exact Nat.one_pos
  | cons c others ih =>
      obtain ⟨digit, digits⟩ := List.forall_mem_cons.mp isDigit
      calc decimalValue (c :: others)
        _ = digitValue c * tenTo others.length + decimalValue others := decimalValue_cons c others
        _ < digitValue c * tenTo others.length + tenTo others.length :=
            Nat.add_lt_add_left (ih digits) _
        _ = (digitValue c + 1) * tenTo others.length := (Nat.succ_mul _ _).symm
        _ ≤ 10 * tenTo others.length := Nat.mul_le_mul_right _ (digitValue_lt digit)
        _ = tenTo (c :: others).length := Nat.pow_succ'.symm

theorem tenTo_le_decimalValue {c : Char} {s : List Char} (digit : c.isDigit = true)
    (filled : c ≠ '0') : tenTo s.length ≤ decimalValue (c :: s) := by
  rw [decimalValue_cons]
  exact Nat.le_trans (Nat.le_mul_of_pos_left _ (digitValue_pos digit filled))
    (Nat.le_add_right _ _)

theorem decimalValue_dropWhile_zero (s : List Char) :
    decimalValue (s.dropWhile (· == '0')) = decimalValue s := by
  induction s with
  | nil => rfl
  | cons c others ih =>
      by_cases zero : c = '0'
      · subst zero
        exact ih
      · rw [List.dropWhile_cons_of_neg (by simpa using zero)]

/-- Where the first of the digits stands, from the size of the number they spell. -/
theorem leading_bounds {c : Char} {others : List Char} {scale least most : Int}
    (isDigit : ∀ d ∈ c :: others, d.isDigit = true) (nonzero : c ≠ '0')
    (low : (10 : ℚ) ^ least ≤ decimalValue (c :: others) * 10 ^ scale)
    (high : (decimalValue (c :: others) * 10 ^ scale : ℚ) < 10 ^ most) :
    least < scale + (c :: others).length ∧ scale + (c :: others).length ≤ most := by
  have base : (1 : ℚ) < 10 := by norm_num
  have unit : (0 : ℚ) < 10 ^ scale := by positivity
  have shift (places : Nat) : (10 : ℚ) ^ places * 10 ^ scale = 10 ^ (scale + places) := by
    rw [zpow_add₀ (by norm_num), zpow_natCast, mul_comm]
  have large : (10 : ℚ) ^ others.length ≤ decimalValue (c :: others) := by
    rw [← cast_tenTo]
    exact_mod_cast tenTo_le_decimalValue (isDigit c List.mem_cons_self) nonzero
  have small : (decimalValue (c :: others) : ℚ) < 10 ^ (c :: others).length := by
    rw [← cast_tenTo]
    exact_mod_cast decimalValue_lt isDigit
  constructor
  · refine (zpow_lt_zpow_iff_right₀ base).mp ?_
    calc (10 : ℚ) ^ least
      _ ≤ decimalValue (c :: others) * 10 ^ scale := low
      _ < 10 ^ (c :: others).length * 10 ^ scale := mul_lt_mul_of_pos_right small unit
      _ = 10 ^ (scale + (c :: others).length) := shift _
  · have below : scale + others.length < most := by
      refine (zpow_lt_zpow_iff_right₀ base).mp ?_
      calc (10 : ℚ) ^ (scale + others.length)
        _ = 10 ^ others.length * 10 ^ scale := (shift _).symm
        _ ≤ decimalValue (c :: others) * 10 ^ scale := mul_le_mul_of_nonneg_right large unit.le
        _ < 10 ^ most := high
    rw [List.length_cons]
    omega

namespace Numeral

def value (numeral : Numeral) : ℚ := decimalValue numeral.digits * 10 ^ numeral.scale

variable {numeral : Numeral} (isDigit : ∀ c ∈ numeral.digits, c.isDigit = true)

include isDigit

/-- Between the guards a numeral is rounded as a ratio, and the ratio is its value. -/
theorem toWord_eq (low : (10 : ℚ) ^ (-401 : Int) ≤ numeral.value)
    (high : numeral.value < 10 ^ (400 : Int)) :
    ∃ num den : Nat, 0 < den ∧ (num / den : ℚ) = numeral.value ∧
      numeral.toWord double = double.ofRatio num den := by
  have digits : ∀ c ∈ numeral.digits.dropWhile (· == '0'), c.isDigit = true :=
    fun c member => isDigit c ((List.dropWhile_sublist _).mem member)
  have same := decimalValue_dropWhile_zero numeral.digits
  have first := List.head?_dropWhile_not (· == '0') numeral.digits
  unfold toWord value at *
  rw [← same] at low high ⊢
  generalize numeral.digits.dropWhile (· == '0') = significant at *
  cases significant with
  | nil =>
      have none : ((decimalValue [] : Nat) : ℚ) = 0 := Nat.cast_zero
      rw [none, zero_mul] at low
      exact absurd low (not_le.mpr (by positivity))
  | cons c others =>
      obtain ⟨above, below⟩ := leading_bounds digits (by simpa using first) low high
      refine ⟨decimalValue (c :: others) * tenTo numeral.scale.toNat,
        tenTo (-numeral.scale).toNat, tenTo_pos _, ?_, ?_⟩
      · rw [Nat.cast_mul, cast_tenTo, cast_tenTo, mul_div_assoc, tenTo_ratio]
      · have guarded : ¬((c :: others).isEmpty = true ∨
            numeral.scale + (c :: others).length < -400) := by
          rintro (empty | tiny)
          · cases empty
          · omega
        dsimp only
        rw [if_neg guarded, if_neg (by omega)]

/-- What lies nearest to a number of the format is neither too large nor too small for the guards,
so it is read as that number. -/
theorem toFloat_of_nearest {x : Float} {negative : Bool} {mantissa : Nat} {exponent : Int}
    (same : datum x = .finite negative mantissa exponent) (filled : 0 < mantissa)
    (nearest : double.Nearest mantissa exponent (numeral.value / 2 ^ exponent)) :
    numeral.toFloat negative = x := by
  obtain ⟨holds, -, -⟩ := holds_of_datum same
  have least : -1074 ≤ exponent := holds.least_le
  have most := exponent_le same
  have unit : (0 : ℚ) < 2 ^ exponent := by positivity
  have one : (1 : ℚ) ≤ mantissa := by exact_mod_cast filled
  have fits : (mantissa + 1 : ℚ) ≤ 2 ^ 53 := by
    rw [← cast_twoTo]
    exact_mod_cast holds.fits
  have quarters : (double.quartersBelow mantissa exponent : ℚ) ≤ 2 := by
    exact_mod_cast (double.quartersBelow_bounds mantissa exponent).2
  have low : (10 : ℚ) ^ (-401 : Int) ≤ numeral.value :=
    calc (10 : ℚ) ^ (-401 : Int)
      _ ≤ 2 ^ (-1075 : Int) := tenTo_le_twoTo (.inr (by decide))
      _ ≤ 2 ^ (exponent - 1) := zpow_le_zpow_right₀ (by norm_num) (by omega)
      _ = 1 / 2 * 2 ^ exponent := by rw [zpow_sub_one₀ (by norm_num)]; ring
      _ ≤ numeral.value := (le_div_iff₀ unit).mp (by linarith [nearest.low_le])
  have high : numeral.value < 10 ^ (400 : Int) :=
    calc numeral.value
      _ < 2 ^ 53 * 2 ^ exponent := (div_lt_iff₀ unit).mp (by linarith [nearest.le_high])
      _ ≤ 2 ^ 53 * 2 ^ (971 : Int) :=
        mul_le_mul_of_nonneg_left (zpow_le_zpow_right₀ (by norm_num) most) (by positivity)
      _ = 2 ^ (53 + 971) := (pow_add (2 : ℚ) 53 971).symm
      _ ≤ 10 ^ 400 := twoTo_le_tenTo (by decide)
  obtain ⟨num, den, positive, ratio, word⟩ := toWord_eq isDigit low high
  unfold toFloat
  rw [word]
  exact ofWord_ofRatio same filled positive (by rwa [ratio])

end Numeral

end Spreadsheet.Decimal
