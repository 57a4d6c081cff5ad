import Spreadsheet.Decimal.Shortest
import Spreadsheet.Proofs.Decimal.Nearest

/-! The shortest decimal is among the numbers that round to the one it was made for. -/

namespace Spreadsheet.Decimal

open Spreadsheet.Binary

def Scientific.value (x : Scientific) : ℚ := x.coefficient * 10 ^ x.exponent

namespace Interval

/-- The numbers of an interval, with its ends only if it is closed. -/
structure Covers (interval : Interval) (x : ℚ) : Prop where
  low_le : (interval.low : ℚ) / interval.den ≤ x
  le_high : x ≤ (interval.high : ℚ) / interval.den
  inside : interval.closed = false →
    (interval.low : ℚ) / interval.den < x ∧ x < (interval.high : ℚ) / interval.den

section Grids

variable {interval : Interval} {exponent : Int}

theorem covers_of_contains (positive : 0 < interval.den) {n : Nat}
    (contained : interval.contains n = true) : interval.Covers n := by
  have width : (0 : ℚ) < interval.den := Nat.cast_pos.mpr positive
  unfold contains at contained
  dsimp only at contained
  split at contained
  next closed =>
    rw [Bool.and_eq_true, decide_eq_true_eq, decide_eq_true_eq] at contained
    refine ⟨?_, ?_, fun «open» => ?_⟩
    · rw [div_le_iff₀ width]
      exact_mod_cast contained.1
    · rw [le_div_iff₀ width]
      exact_mod_cast contained.2
    · rw [closed] at «open»
      cases «open»
  next =>
    rw [Bool.and_eq_true, decide_eq_true_eq, decide_eq_true_eq] at contained
    have low : (interval.low : ℚ) / interval.den < n := by
      rw [div_lt_iff₀ width]
      exact_mod_cast contained.1
    have high : (n : ℚ) < interval.high / interval.den := by
      rw [lt_div_iff₀ width]
      exact_mod_cast contained.2
    exact ⟨low.le, high.le, fun _ => ⟨low, high⟩⟩

theorem inUnits_ratio (interval : Interval) (n : Nat) (exponent : Int) :
    ((n * tenTo (-exponent).toNat : Nat) : ℚ) / (interval.inUnits exponent).den =
      (n : ℚ) / interval.den / 10 ^ exponent := by
  change _ / ((interval.den * tenTo exponent.toNat : Nat) : ℚ) = _
  rw [Nat.cast_mul, Nat.cast_mul, cast_tenTo, cast_tenTo, mul_div_mul_comm,
    div_eq_mul_inv (_ / _) (10 ^ exponent), ← tenTo_ratio, inv_div]

theorem Covers.of_inUnits {y : ℚ} (covers : (interval.inUnits exponent).Covers y) :
    interval.Covers (y * 10 ^ exponent) := by
  have unit : (0 : ℚ) < 10 ^ exponent := by positivity
  obtain ⟨low, high, inside⟩ := covers
  change ((interval.low * tenTo _ : Nat) : ℚ) / _ ≤ y at low
  change y ≤ ((interval.high * tenTo _ : Nat) : ℚ) / _ at high
  change interval.closed = false → ((interval.low * tenTo _ : Nat) : ℚ) / _ < y ∧
    y < ((interval.high * tenTo _ : Nat) : ℚ) / _ at inside
  rw [inUnits_ratio] at low high inside
  rw [inUnits_ratio] at inside
  rw [div_le_iff₀ unit] at low
  rw [le_div_iff₀ unit] at high
  rw [div_lt_iff₀ unit, lt_div_iff₀ unit] at inside
  exact ⟨low, high, inside⟩

theorem contains_of_nearestInteger? {tie : Tie} {n : Nat}
    (found : interval.nearestInteger? tie = some n) : interval.contains n = true ∧ 0 < n := by
  unfold nearestInteger? at found
  dsimp only at found
  split at found
  next taken =>
    cases found
    simp only [Bool.and_eq_true, decide_eq_true_eq] at taken
    exact ⟨taken.1.2, taken.1.1⟩
  next =>
    split at found <;> cases found
    next taken => exact ⟨taken, Nat.succ_pos _⟩

/-- Rounding down on a grid goes down by less than one of its steps. -/
theorem floor_bounds (interval : Interval) (exponent : Int) :
    let scaled := interval.inUnits exponent
    let floor := Scientific.value ⟨scaled.value / scaled.den, exponent⟩
    (interval.value : ℚ) / interval.den - 10 ^ exponent < floor ∧
      floor ≤ (interval.value : ℚ) / interval.den := by
  intro scaled floor
  have unit : (0 : ℚ) < 10 ^ exponent := by positivity
  have quotient : scaled.value / scaled.den =
      ⌊(interval.value : ℚ) / interval.den / 10 ^ exponent⌋₊ := by
    rw [← inUnits_ratio, Nat.floor_div_eq_div]
    rfl
  have least := Nat.lt_floor_add_one ((interval.value : ℚ) / interval.den / 10 ^ exponent)
  have most := Nat.floor_le
    (show (0 : ℚ) ≤ (interval.value : ℚ) / interval.den / 10 ^ exponent by positivity)
  rw [← quotient, div_lt_iff₀ unit, add_mul, one_mul] at least
  rw [← quotient, le_div_iff₀ unit] at most
  exact ⟨sub_lt_iff_lt_add.mpr least, most⟩

/-- Rounding down on a grid that is no coarser than the lower part does not leave the interval. -/
theorem covers_floor (positive : 0 < interval.den) (above : interval.value < interval.high)
    (fine : (10 : ℚ) ^ exponent ≤
      (interval.value : ℚ) / interval.den - (interval.low : ℚ) / interval.den) :
    let scaled := interval.inUnits exponent
    interval.Covers (Scientific.value ⟨scaled.value / scaled.den, exponent⟩) ∧
      0 < scaled.value / scaled.den := by
  intro scaled
  have width : (0 : ℚ) < interval.den := Nat.cast_pos.mpr positive
  have lowest : (0 : ℚ) ≤ (interval.low : ℚ) / interval.den := by positivity
  have highest : (interval.value : ℚ) / interval.den < (interval.high : ℚ) / interval.den := by
    rw [div_lt_div_iff_of_pos_right width]
    exact_mod_cast above
  obtain ⟨least, most⟩ := interval.floor_bounds exponent
  change _ < Scientific.value ⟨scaled.value / scaled.den, exponent⟩ at least
  change Scientific.value ⟨scaled.value / scaled.den, exponent⟩ ≤ _ at most
  generalize scaled.value / scaled.den = n at least most ⊢
  have low : (interval.low : ℚ) / interval.den < Scientific.value ⟨n, exponent⟩ := by linarith
  have high : Scientific.value ⟨n, exponent⟩ < (interval.high : ℚ) / interval.den := by linarith
  refine ⟨⟨low.le, high.le, fun _ => ⟨low, high⟩⟩, Nat.pos_of_ne_zero ?_⟩
  rintro rfl
  unfold Scientific.value at low
  simp only [Nat.cast_zero, zero_mul] at low
  linarith

theorem covers_shortestFrom (positive : 0 < interval.den) (above : interval.value < interval.high)
    (tie : Tie) (tries : Nat)
    (fine : (10 : ℚ) ^ (exponent - tries) ≤
      (interval.value : ℚ) / interval.den - (interval.low : ℚ) / interval.den) :
    interval.Covers (interval.shortestFrom tie tries exponent).value ∧
      0 < (interval.shortestFrom tie tries exponent).coefficient := by
  induction tries generalizing exponent with
  | zero =>
      rw [Nat.cast_zero, sub_zero] at fine
      exact covers_floor positive above fine
  | succ tries ih =>
      rw [shortestFrom]
      split
      next coefficient found =>
        obtain ⟨contained, filled⟩ := contains_of_nearestInteger? found
        have scaled : 0 < (interval.inUnits exponent).den := Nat.mul_pos positive (tenTo_pos _)
        exact ⟨(covers_of_contains scaled contained).of_inUnits, filled⟩
      next =>
        refine ih ?_
        rw [Nat.cast_succ] at fine
        rwa [show exponent - 1 - tries = exponent - (tries + 1) by omega]

end Grids

section Mantissa

variable {format : Format} {mantissa : Nat} {exponent : Int}

theorem twoTo_sub_two (exponent : Int) : (2 : ℚ) ^ (exponent - 2) = 2 ^ exponent / 4 := by
  rw [zpow_sub₀ (by norm_num)]
  norm_num

theorem ofMantissa_ratio (format : Format) (mantissa n : Nat) (exponent : Int) :
    ((n * twoTo (exponent - 2).toNat : Nat) : ℚ) / (ofMantissa format mantissa exponent).den =
      n / 4 * 2 ^ exponent := by
  change _ / ((twoTo (-(exponent - 2)).toNat : Nat) : ℚ) = _
  rw [Nat.cast_mul, cast_twoTo, cast_twoTo, mul_div_assoc, twoTo_ratio, twoTo_sub_two]
  ring

theorem quartersBelow_le (format : Format) (exponent : Int) (filled : 0 < mantissa) :
    format.quartersBelow mantissa exponent ≤ 4 * mantissa := by
  have bounds := format.quartersBelow_bounds mantissa exponent
  omega

theorem nearest_of_covers (filled : 0 < mantissa) {x : ℚ}
    (covers : (ofMantissa format mantissa exponent).Covers x) :
    format.Nearest mantissa exponent (x / 2 ^ exponent) := by
  have unit : (0 : ℚ) < 2 ^ exponent := by positivity
  have quarters := quartersBelow_le format exponent filled
  obtain ⟨low, high, inside⟩ := covers
  have closed : (ofMantissa format mantissa exponent).closed = false ↔ mantissa % 2 = 1 := by
    change (mantissa % 2 == 0) = false ↔ _
    rw [beq_eq_false_iff_ne]
    omega
  change (((4 * mantissa - format.quartersBelow mantissa exponent) * twoTo _ : Nat) : ℚ) / _ ≤ _
    at low
  change _ ≤ (((4 * mantissa + 2) * twoTo _ : Nat) : ℚ) / _ at high
  change _ → (((4 * mantissa - format.quartersBelow mantissa exponent) * twoTo _ : Nat) : ℚ) / _ < _
    ∧ _ < (((4 * mantissa + 2) * twoTo _ : Nat) : ℚ) / _ at inside
  rw [closed] at inside
  rw [ofMantissa_ratio, Nat.cast_sub quarters] at low inside
  rw [ofMantissa_ratio] at high inside
  push_cast at low high inside
  rw [← le_div_iff₀ unit] at low
  rw [← div_le_iff₀ unit] at high
  rw [← lt_div_iff₀ unit, ← div_lt_iff₀ unit] at inside
  refine ⟨by linarith, by linarith, fun odd => ?_⟩
  obtain ⟨above, below⟩ := inside odd
  exact ⟨by linarith, by linarith⟩

theorem value_lt_high (format : Format) (mantissa : Nat) (exponent : Int) :
    (ofMantissa format mantissa exponent).value < (ofMantissa format mantissa exponent).high :=
  Nat.mul_lt_mul_of_pos_right (show 4 * mantissa < 4 * mantissa + 2 by omega) (twoTo_pos _)

/-- The interval goes down by a quarter of a unit at least. -/
theorem twoTo_le_value_sub_low (format : Format) (exponent : Int) (filled : 0 < mantissa) :
    (2 : ℚ) ^ (exponent - 2) ≤
      ((ofMantissa format mantissa exponent).value : ℚ) /
          (ofMantissa format mantissa exponent).den -
        ((ofMantissa format mantissa exponent).low : ℚ) /
          (ofMantissa format mantissa exponent).den := by
  have one : (1 : ℚ) ≤ format.quartersBelow mantissa exponent := by
    exact_mod_cast (format.quartersBelow_bounds mantissa exponent).1
  have unit : (0 : ℚ) < 2 ^ exponent := by positivity
  change _ ≤ ((4 * mantissa * twoTo _ : Nat) : ℚ) / _ -
    (((4 * mantissa - format.quartersBelow mantissa exponent) * twoTo _ : Nat) : ℚ) / _
  rw [ofMantissa_ratio, ofMantissa_ratio, Nat.cast_sub (quartersBelow_le format exponent filled),
    twoTo_sub_two]
  push_cast
  nlinarith

theorem startExponent_ofMantissa (filled : 0 < mantissa) (fits : mantissa < twoTo 53)
    (least : -1074 ≤ exponent) (most : exponent ≤ 971) :
    (10 : ℚ) ^ ((ofMantissa format mantissa exponent).startExponent - (24 : Nat)) ≤
      2 ^ (exponent - 2) := by
  have size : (4 * mantissa + 2).log2 ≤ 54 :=
    Nat.le_of_lt_succ ((Nat.log2_lt (by omega)).mpr (by change mantissa < 2 ^ 53 at fits; omega))
  have high : (ofMantissa format mantissa exponent).high.log2 =
      (4 * mantissa + 2).log2 + (exponent - 2).toNat := log2_mul_twoTo (by omega) _
  have den : (ofMantissa format mantissa exponent).den.log2 = (-(exponent - 2)).toNat :=
    Nat.log2_two_pow
  apply tenTo_le_twoTo
  unfold startExponent
  dsimp only
  rw [high, den]
  split <;> omega

end Mantissa

end Interval

/-- The shortest decimal is a positive number that rounds to the one it was made for. -/
theorem shortest_nearest {format : Format} {mantissa : Nat} {exponent : Int}
    (filled : 0 < mantissa) (fits : mantissa < twoTo 53) (least : -1074 ≤ exponent)
    (most : exponent ≤ 971) (tie : Tie) :
    format.Nearest mantissa exponent
        ((shortest format tie mantissa exponent).value / 2 ^ exponent) ∧
      0 < (shortest format tie mantissa exponent).coefficient := by
  have start : (10 : ℚ) ^ ((Interval.ofMantissa format mantissa exponent).startExponent -
      (24 : Nat)) ≤ 2 ^ (exponent - 2) :=
    Interval.startExponent_ofMantissa filled fits least most
  have fine := start.trans (Interval.twoTo_le_value_sub_low format exponent filled)
  obtain ⟨covers, positive⟩ := Interval.covers_shortestFrom (twoTo_pos _)
    (Interval.value_lt_high format mantissa exponent) tie 24 fine
  exact ⟨Interval.nearest_of_covers filled covers, positive⟩

end Spreadsheet.Decimal
