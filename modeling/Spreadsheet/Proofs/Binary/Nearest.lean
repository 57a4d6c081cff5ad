import Mathlib
import Spreadsheet.Binary.Format

/-! Ratios near a number of a format. All that lie within half a unit of it are rounded to it. -/

namespace Spreadsheet.Binary

theorem log2_shiftLeft {n : Nat} (positive : 0 < n) (places : Nat) :
    (n <<< places).log2 = n.log2 + places := by
  induction places with
  | zero => rfl
  | succ places shorter =>
      have filled : n <<< places ≠ 0 := Nat.ne_of_gt (Nat.shiftLeft_pos_iff.mpr positive)
      rw [Nat.shiftLeft_succ, Nat.log2_two_mul filled, shorter, Nat.add_assoc]

/-- A quotient has as many binary places as its terms differ by. -/
theorem log2_quotient {num den quotient : Nat} (divides : quotient * den ≤ num)
    (positive : 0 < den) (filled : quotient ≠ 0) : quotient.log2 + den.log2 ≤ num.log2 := by
  have below : 2 ^ (quotient.log2 + den.log2) ≤ num :=
    calc 2 ^ (quotient.log2 + den.log2)
      _ = 2 ^ quotient.log2 * 2 ^ den.log2 := Nat.pow_add ..
      _ ≤ quotient * den :=
          Nat.mul_le_mul (Nat.log2_self_le filled) (Nat.log2_self_le (Nat.ne_of_gt positive))
      _ ≤ num := divides
  have filled : num ≠ 0 := Nat.ne_of_gt (Nat.lt_of_lt_of_le (Nat.two_pow_pos _) below)
  exact (Nat.le_log2 filled).mpr below

theorem log2_mul_twoTo {n : Nat} (positive : 0 < n) (places : Nat) :
    (n * twoTo places).log2 = n.log2 + places := by
  rw [← log2_shiftLeft positive, Nat.shiftLeft_eq]
  rfl

theorem twoTo_succ (n : Nat) : twoTo (n + 1) = 2 * twoTo n := Nat.pow_succ'

theorem cast_twoTo (n : Nat) : ((twoTo n : Nat) : ℚ) = 2 ^ n := Nat.cast_pow 2 n

theorem twoTo_ratio (exponent : Int) :
    (2 : ℚ) ^ exponent.toNat / 2 ^ (-exponent).toNat = 2 ^ exponent := by
  obtain ⟨n, rfl | rfl⟩ := exponent.eq_nat_or_neg <;> simp

namespace Format

/-- Mantissas and exponents of finite words. -/
structure Holds (format : Format) (mantissa : Nat) (exponent : Int) : Prop where
  fits : mantissa < twoTo (format.fractionBits + 1)
  least_le : format.leastExponent ≤ exponent
  full : exponent = format.leastExponent ∨ twoTo format.fractionBits ≤ mantissa

/-- Below a power of two the next number is half as far away. -/
def quartersBelow (format : Format) (mantissa : Nat) (exponent : Int) : Nat :=
  if mantissa = twoTo format.fractionBits ∧ format.leastExponent < exponent then 1 else 2

theorem quartersBelow_bounds (format : Format) (mantissa : Nat) (exponent : Int) :
    0 < format.quartersBelow mantissa exponent ∧ format.quartersBelow mantissa exponent ≤ 2 := by
  unfold quartersBelow
  split <;> decide

/-- The ratios, in units of the last place, that lie nearest to a mantissa. Those that lie half way
to the next one belong to an even mantissa. -/
structure Nearest (format : Format) (mantissa : Nat) (exponent : Int) (y : ℚ) : Prop where
  low_le : mantissa - (format.quartersBelow mantissa exponent : ℚ) / 4 ≤ y
  le_high : y ≤ mantissa + 1 / 2
  inside : mantissa % 2 = 1 →
    mantissa - (format.quartersBelow mantissa exponent : ℚ) / 4 < y ∧ y < mantissa + 1 / 2

theorem Nearest.self (format : Format) (mantissa : Nat) (exponent : Int) :
    format.Nearest mantissa exponent mantissa := by
  have quarters : (0 : ℚ) < format.quartersBelow mantissa exponent := by
    exact_mod_cast (format.quartersBelow_bounds mantissa exponent).1
  exact ⟨by linarith, by linarith, fun _ => ⟨by linarith, by linarith⟩⟩

section Units

variable {num den : Nat} {exponent : Int}

theorem inUnits_pos (positive : 0 < den) : 0 < (inUnits num den exponent).2 :=
  Nat.mul_pos positive (twoTo_pos _)

theorem inUnits_ratio (num den : Nat) (exponent : Int) :
    ((inUnits num den exponent).1 : ℚ) / (inUnits num den exponent).2 =
      (num / den : ℚ) / 2 ^ exponent := by
  unfold inUnits
  rw [Nat.cast_mul, Nat.cast_mul, cast_twoTo, cast_twoTo, mul_div_mul_comm,
    div_eq_mul_inv (_ / _) (2 ^ exponent), ← twoTo_ratio, inv_div]

/-- The integer part of a ratio in units of `2 ^ exponent`. -/
theorem inUnits_div (num den : Nat) (exponent : Int) :
    (inUnits num den exponent).1 / (inUnits num den exponent).2 =
      ⌊(num / den : ℚ) / 2 ^ exponent⌋₊ := by
  rw [← inUnits_ratio, Nat.floor_div_eq_div]

/-- One exponent less counts twice as many units. -/
theorem ratio_below (x : ℚ) (exponent : Int) : x / 2 ^ (exponent - 1) = 2 * (x / 2 ^ exponent) := by
  rw [zpow_sub_one₀ (by norm_num)]
  field_simp

theorem two_mul_le_inUnits_below {quotient : Nat}
    (floor : ⌊(num / den : ℚ) / 2 ^ exponent⌋₊ = quotient) :
    2 * quotient ≤ (inUnits num den (exponent - 1)).1 / (inUnits num den (exponent - 1)).2 := by
  have least := Nat.floor_le (show (0 : ℚ) ≤ (num / den : ℚ) / 2 ^ exponent by positivity)
  rw [floor] at least
  rw [inUnits_div, ratio_below]
  refine Nat.le_floor ?_
  push_cast
  linarith

/-- Places of a ratio and of its integer part, in units of `2 ^ exponent`. -/
theorem log2_inUnits {quotient : Nat} (filled : 0 < num) (positive : 0 < den)
    (floor : ⌊(num / den : ℚ) / 2 ^ exponent⌋₊ = quotient) :
    num.log2 + (-exponent).toNat ≤ quotient.log2 + (den.log2 + exponent.toNat) + 1 ∧
      (quotient ≠ 0 →
        quotient.log2 + (den.log2 + exponent.toNat) ≤ num.log2 + (-exponent).toNat) := by
  rw [← log2_mul_twoTo filled, ← log2_mul_twoTo positive]
  have divides := (inUnits_div num den exponent).trans floor
  have width : 0 < den * twoTo exponent.toNat := Nat.mul_pos positive (twoTo_pos _)
  have some : num * twoTo (-exponent).toNat ≠ 0 :=
    Nat.ne_of_gt (Nat.mul_pos filled (twoTo_pos _))
  unfold inUnits at divides
  dsimp only at divides
  generalize num * twoTo (-exponent).toNat = above at divides some ⊢
  generalize den * twoTo exponent.toNat = below at divides width ⊢
  constructor
  · refine Nat.le_of_lt_succ ((Nat.log2_lt some).mpr ?_)
    have bound := Nat.lt_mul_div_succ above width
    rw [divides] at bound
    calc above
      _ < below * (quotient + 1) := bound
      _ ≤ 2 ^ (below.log2 + 1) * 2 ^ (quotient.log2 + 1) :=
          Nat.mul_le_mul (Nat.le_of_lt Nat.lt_log2_self) Nat.lt_log2_self
      _ = 2 ^ (quotient.log2 + below.log2 + 1 + 1) := by
          rw [← Nat.pow_add]
          congr 1
          omega
  · refine log2_quotient ?_ width
    rw [← divides]
    exact Nat.div_mul_le_self _ _

/-- A quotient that fits the mantissa is taken at its own exponent. The search starts there, or one
exponent lower, where the quotient is twice as large and does not fit. -/
theorem fittingExponent_eq {format : Format} {quotient : Nat} (filled : 0 < num)
    (positive : 0 < den) (floor : ⌊(num / den : ℚ) / 2 ^ exponent⌋₊ = quotient)
    (holds : format.Holds quotient exponent) : format.fittingExponent num den = exponent := by
  obtain ⟨most, least⟩ := log2_inUnits filled positive floor
  have bound := holds.least_le
  have places : quotient.log2 ≤ format.fractionBits := by
    by_cases none : quotient = 0
    · rw [none, Nat.log2_zero]
      exact Nat.zero_le _
    · exact Nat.le_of_lt_succ ((Nat.log2_lt none).mpr holds.fits)
  unfold fittingExponent
  dsimp only
  generalize low : max format.leastExponent
    ((num.log2 : Int) - den.log2 - 1 - format.fractionBits) = start
  have near : start = exponent ∨
      start = exponent - 1 ∧ twoTo format.fractionBits ≤ quotient := by
    rcases holds.full with lowest | full
    · exact .inl (by omega)
    · have some : quotient ≠ 0 := Nat.ne_of_gt (Nat.lt_of_lt_of_le (twoTo_pos _) full)
      have wide := (Nat.le_log2 some).mpr full
      have least := least some
      by_cases same : start = exponent
      · exact .inl same
      · exact .inr ⟨by omega, full⟩
  rcases near with rfl | ⟨rfl, full⟩
  · rw [inUnits_div, floor, if_pos holds.fits]
  · have twice := two_mul_le_inUnits_below floor
    rw [if_neg (by rw [twoTo_succ]; omega)]
    omega

/-- The ends are within half a unit, and a mantissa that is not even keeps them out. -/
theorem nearestQuotient_of_bounds {mantissa : Nat} (low : 2 * (mantissa * den) ≤ 2 * num + den)
    (high : 2 * num ≤ 2 * (mantissa * den) + den)
    (inside : mantissa % 2 = 1 →
      2 * (mantissa * den) < 2 * num + den ∧ 2 * num < 2 * (mantissa * den) + den)
    (positive : 0 < den) : nearestQuotient num den = mantissa := by
  unfold nearestQuotient
  dsimp only
  by_cases reached : mantissa * den ≤ num
  · have quotient : num / den = mantissa :=
      Nat.div_eq_of_lt_le reached (by rw [Nat.add_mul]; omega)
    have remainder := Nat.div_add_mod' num den
    rw [quotient] at remainder ⊢
    generalize mantissa * den = product at *
    split
    · rfl
    · split
      · omega
      · omega
  · obtain ⟨shy, rfl⟩ : ∃ shy, mantissa = shy + 1 := by
      refine Nat.exists_eq_succ_of_ne_zero fun none => reached ?_
      rw [none, Nat.zero_mul]
      exact Nat.zero_le _
    rw [Nat.add_mul, Nat.one_mul] at low high inside reached
    have quotient : num / den = shy :=
      Nat.div_eq_of_lt_le (by omega) (by rw [Nat.add_mul]; omega)
    have remainder := Nat.div_add_mod' num den
    rw [quotient] at remainder ⊢
    generalize shy * den = product at *
    split
    · omega
    · split
      · rfl
      · omega

theorem nearestQuotient_eq {mantissa : Nat} (positive : 0 < den)
    (low : mantissa - (1 / 2 : ℚ) ≤ num / den) (high : (num / den : ℚ) ≤ mantissa + 1 / 2)
    (inside : mantissa % 2 = 1 →
      mantissa - (1 / 2 : ℚ) < num / den ∧ (num / den : ℚ) < mantissa + 1 / 2) :
    nearestQuotient num den = mantissa := by
  have width : (0 : ℚ) < den := Nat.cast_pos.mpr positive
  rw [le_div_iff₀ width] at low
  rw [div_le_iff₀ width] at high
  rw [lt_div_iff₀ width, div_lt_iff₀ width] at inside
  have least : (2 * (mantissa * den) : ℚ) ≤ 2 * num + den := by linarith
  have most : (2 * num : ℚ) ≤ 2 * (mantissa * den) + den := by linarith
  refine nearestQuotient_of_bounds (by exact_mod_cast least) (by exact_mod_cast most) ?_ positive
  intro odd
  obtain ⟨above, below⟩ := inside odd
  have left : (2 * (mantissa * den) : ℚ) < 2 * num + den := by linarith
  have right : (2 * num : ℚ) < 2 * (mantissa * den) + den := by linarith
  exact ⟨by exact_mod_cast left, by exact_mod_cast right⟩

theorem ofRatio_of_floor {format : Format} {quotient mantissa : Nat} (filled : 0 < num)
    (positive : 0 < den) (floor : ⌊(num / den : ℚ) / 2 ^ exponent⌋₊ = quotient)
    (holds : format.Holds quotient exponent)
    (nearest : nearestQuotient (inUnits num den exponent).1 (inUnits num den exponent).2 =
      mantissa) :
    format.ofRatio num den = min format.infinity
      ((exponent - format.leastExponent).toNat * twoTo format.fractionBits + mantissa) := by
  unfold ofRatio
  rw [if_neg (Nat.ne_of_gt filled)]
  dsimp only
  rw [fittingExponent_eq filled positive floor holds, nearest]

section Rounding

variable {format : Format} {mantissa : Nat} (positive : 0 < den)
  (holds : format.Holds mantissa exponent)
  (nearest : format.Nearest mantissa exponent ((num / den : ℚ) / 2 ^ exponent))

include positive holds nearest

/-- A ratio from the number upwards has its mantissa for a quotient. -/
theorem ofRatio_above (filled : 0 < num) (reached : mantissa ≤ (num / den : ℚ) / 2 ^ exponent) :
    format.ofRatio num den = min format.infinity
      ((exponent - format.leastExponent).toNat * twoTo format.fractionBits + mantissa) := by
  obtain ⟨-, high, inside⟩ := nearest
  have floor : ⌊(num / den : ℚ) / 2 ^ exponent⌋₊ = mantissa :=
    (Nat.floor_eq_iff (by positivity)).mpr ⟨reached, by linarith⟩
  refine ofRatio_of_floor filled positive floor holds ?_
  apply nearestQuotient_eq (inUnits_pos positive) <;> rw [inUnits_ratio]
  · linarith
  · exact high
  · exact fun odd => ⟨by linarith, (inside odd).2⟩

/-- Below a power of two a ratio falls among the mantissas one exponent lower. It is rounded up to
the one that would come next there. -/
theorem ofRatio_below_power (filled : 0 < num)
    (below : (num / den : ℚ) / 2 ^ exponent < mantissa)
    (power : mantissa = twoTo format.fractionBits ∧ format.leastExponent < exponent) :
    format.ofRatio num den = min format.infinity
      ((exponent - format.leastExponent).toNat * twoTo format.fractionBits + mantissa) := by
  have low := nearest.low_le
  have quarter : format.quartersBelow mantissa exponent = 1 := if_pos power
  rw [quarter] at low
  have twice := twoTo_succ format.fractionBits
  obtain ⟨shy, rfl⟩ : ∃ shy, mantissa = shy + 1 :=
    Nat.exists_eq_succ_of_ne_zero (power.1 ▸ Nat.ne_of_gt (twoTo_pos _))
  push_cast at low below
  have floor : ⌊(num / den : ℚ) / 2 ^ (exponent - 1)⌋₊ = 2 * shy + 1 := by
    rw [ratio_below]
    refine (Nat.floor_eq_iff (by positivity)).mpr ⟨?_, ?_⟩ <;> push_cast <;> linarith
  have lower : format.Holds (2 * shy + 1) (exponent - 1) :=
    ⟨by omega, by omega, .inr (by omega)⟩
  have steps : (exponent - format.leastExponent).toNat =
      (exponent - 1 - format.leastExponent).toNat + 1 := by omega
  rw [steps, Nat.succ_mul, Nat.add_assoc, power.1, ← Nat.two_mul]
  refine ofRatio_of_floor filled positive floor lower ?_
  rw [← power.1]
  apply nearestQuotient_eq (inUnits_pos positive) <;> rw [inUnits_ratio, ratio_below]
  · push_cast
    linarith
  · push_cast
    linarith
  · exact fun odd => absurd odd (by omega)

theorem ofRatio_below (filled : 0 < num) (some : 0 < mantissa)
    (below : (num / den : ℚ) / 2 ^ exponent < mantissa)
    (plain : ¬(mantissa = twoTo format.fractionBits ∧ format.leastExponent < exponent)) :
    format.ofRatio num den = min format.infinity
      ((exponent - format.leastExponent).toNat * twoTo format.fractionBits + mantissa) := by
  obtain ⟨low, -, inside⟩ := nearest
  have half : format.quartersBelow mantissa exponent = 2 := if_neg plain
  rw [half] at low inside
  obtain ⟨shy, rfl⟩ : ∃ shy, mantissa = shy + 1 :=
    Nat.exists_eq_succ_of_ne_zero (Nat.ne_of_gt some)
  push_cast at low below inside
  have floor : ⌊(num / den : ℚ) / 2 ^ exponent⌋₊ = shy :=
    (Nat.floor_eq_iff (by positivity)).mpr ⟨by linarith, below⟩
  obtain ⟨fits, least, full⟩ := holds
  have before : format.Holds shy exponent := ⟨by omega, least, by omega⟩
  refine ofRatio_of_floor filled positive floor before ?_
  apply nearestQuotient_eq (inUnits_pos positive) <;> rw [inUnits_ratio]
  · push_cast
    linarith
  · push_cast
    linarith
  · intro odd
    push_cast
    exact ⟨by linarith [(inside odd).1], by linarith⟩

/-- Every ratio that lies nearest to a number of the format is rounded to its word. -/
theorem ofRatio_of_nearest (some : 0 < mantissa) :
    format.ofRatio num den = min format.infinity
      ((exponent - format.leastExponent).toNat * twoTo format.fractionBits + mantissa) := by
  have filled : 0 < num := by
    have low := nearest.low_le
    have one : (1 : ℚ) ≤ mantissa := by exact_mod_cast some
    have quarters : (format.quartersBelow mantissa exponent : ℚ) ≤ 2 := by
      exact_mod_cast (format.quartersBelow_bounds mantissa exponent).2
    refine Nat.pos_of_ne_zero fun none => ?_
    rw [none, Nat.cast_zero, zero_div, zero_div] at low
    linarith
  by_cases reached : (mantissa : ℚ) ≤ (num / den : ℚ) / 2 ^ exponent
  · exact ofRatio_above positive holds nearest filled reached
  rw [not_le] at reached
  by_cases power : mantissa = twoTo format.fractionBits ∧ format.leastExponent < exponent
  · exact ofRatio_below_power positive holds nearest filled reached power
  · exact ofRatio_below positive holds nearest filled some reached power

end Rounding

end Units

end Format

end Spreadsheet.Binary
