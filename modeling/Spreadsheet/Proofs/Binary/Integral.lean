import Spreadsheet.Proofs.Binary.Arithmetic

/-! Integers near a finite number, and the number next above it. All of them are exact. -/

namespace Spreadsheet.Binary

open Float.Model Float.Model.UnpackedFloat

theorem cast_signed (negative : Bool) (magnitude : Nat) :
    (signed negative magnitude : ℚ) = if negative then -(magnitude : ℚ) else magnitude := by
  cases negative <;> simp [signed]

theorem datum_ofWord {word mantissa : Nat} {negative : Bool} {exponent : Int}
    (bounded : word < 2 * double.signWeight)
    (decoded : double.decode word = .finite negative mantissa exponent) :
    datum (ofWord word) = .finite negative mantissa exponent := by
  obtain ⟨unsigned, found, -⟩ := Format.eq_of_decode_signed bounded decoded
  obtain ⟨holds, finite, counts⟩ := Format.eq_of_decode found
  rw [counts] at finite
  have most := holds.exponent_lt finite (by decide)
  change exponent < 2 - 1024 - 52 + 2046 at most
  have word_eq : (UInt64.ofNat word).toBitVec.toNat = word := by
    change word % 2 ^ 64 = word
    exact Nat.mod_eq_of_lt bounded
  rw [← word_eq, decode_eq (UInt64.ofNat word).toBitVec] at decoded
  change datum (Float.ofModel (.pack (UnpackedFloat.unpack Format.binary64
    (UInt64.ofNat word).toBitVec))) = _
  generalize UnpackedFloat.unpack Format.binary64 (UInt64.ofNat word).toBitVec = number at decoded ⊢
  cases number with
  | infinity sign => cases decoded
  | notANumber => cases decoded
  | zero sign => exact (datum_pack_zero sign).trans decoded
  | finite sign m e positive =>
      have same := decoded
      cases same
      exact (datum_pack sign positive holds (by omega)).trans rfl

theorem exists_decode {word : Nat} (below : word < double.infinity) :
    ∃ mantissa exponent, double.decode word = .finite false mantissa exponent := by
  have field : word / twoTo double.fractionBits < twoTo double.exponentBits - 1 :=
    (Nat.div_lt_iff_lt_mul (twoTo_pos _)).mpr below
  have ordinary : word / twoTo double.fractionBits % twoTo double.exponentBits ≠
      twoTo double.exponentBits - 1 := by
    rw [Nat.mod_eq_of_lt (by omega)]
    exact Nat.ne_of_lt field
  obtain ⟨negative, mantissa, exponent, decoded⟩ :=
    (Format.decode_finite_iff double word).mpr ordinary
  have bounded : word < 2 * double.signWeight := below.trans (by decide)
  obtain ⟨unsigned, -, same⟩ := Format.eq_of_decode_signed bounded decoded
  have positive : word < double.signWeight := below.trans (by decide)
  cases negative with
  | false => exact ⟨mantissa, exponent, decoded⟩
  | true =>
      change word = double.signWeight + unsigned at same
      omega

/-- The sign of a word is the sign of the number. -/
theorem ofWord_withSign_true {word : Nat} (most : word ≤ double.infinity) :
    (ofWord (double.withSign true word)).isFinite = (ofWord word).isFinite ∧
      ofWord (double.withSign true word) = -ofWord word := by
  rcases Nat.lt_or_eq_of_le most with below | rfl
  · obtain ⟨mantissa, exponent, decoded⟩ := exists_decode below
    have bounded : double.withSign true word < 2 * double.signWeight := by
      change double.signWeight + word < _
      have : double.infinity < double.signWeight := by decide
      omega
    have plain := datum_ofWord (below.trans (by decide)) decoded
    have signed := datum_ofWord bounded (Format.decode_signWeight_add decoded)
    refine ⟨?_, ?_⟩
    · rw [isFinite_iff_datum.mpr ⟨_, _, _, plain⟩, isFinite_iff_datum.mpr ⟨_, _, _, signed⟩]
    · rw [← (holds_of_datum signed).2.2, ← (holds_of_datum (datum_neg plain)).2.2]
      rfl
  · exact ⟨by decide, by decide⟩

/-- A ratio that a number of the format stands for is stored as that number. -/
theorem datum_ofRatio {num den mantissa : Nat} {exponent : Int} (negative : Bool)
    (positive : 0 < den) (holds : double.Holds mantissa exponent) (most : exponent ≤ 971)
    (filled : 0 < mantissa) (same : (num / den : ℚ) = mantissa * 2 ^ exponent) :
    datum (ofWord (double.withSign negative (double.ofRatio num den))) =
      .finite negative mantissa exponent := by
  have counted := holds.counted_lt most
  have scale : (2 : ℚ) ^ exponent ≠ 0 := by positivity
  have nearest : double.Nearest mantissa exponent ((num / den : ℚ) / 2 ^ exponent) := by
    rw [same, mul_div_cancel_right₀ _ scale]
    exact .self ..
  rw [Format.ofRatio_of_nearest positive holds nearest filled, Nat.min_eq_right counted.le]
  refine datum_ofWord ?_ (Format.decode_of_holds holds counted negative)
  change _ < 2047 * 4503599627370496 at counted
  cases negative with
  | false =>
      change _ < 2 * 9223372036854775808
      exact counted.trans (by decide)
  | true =>
      change 9223372036854775808 + _ < 2 * 9223372036854775808
      omega

/-- Natural numbers below `2 ^ 53`, with their leading bit shifted to the top. -/
theorem exists_holds {n : Nat} (positive : 0 < n) (fits : n < 2 ^ 53) :
    ∃ mantissa exponent, double.Holds mantissa exponent ∧ exponent ≤ 971 ∧ 0 < mantissa ∧
      (n : ℚ) = mantissa * 2 ^ exponent := by
  have places : n.log2 < 53 := (Nat.log2_lt positive.ne').mpr fits
  have size := Nat.log2_self_le positive.ne'
  have small : n < 2 ^ (n.log2 + 1) := Nat.lt_log2_self
  refine ⟨n * 2 ^ (52 - n.log2), n.log2 - 52, ⟨?_, ?_, .inr ?_⟩, by omega, by positivity, ?_⟩
  · calc n * 2 ^ (52 - n.log2) < 2 ^ (n.log2 + 1) * 2 ^ (52 - n.log2) :=
          Nat.mul_lt_mul_of_pos_right small (Nat.two_pow_pos _)
      _ = 2 ^ 53 := by
          rw [← Nat.pow_add]
          congr 1
          omega
  · change (-1074 : Int) ≤ _
    omega
  · calc 2 ^ 52 = 2 ^ n.log2 * 2 ^ (52 - n.log2) := by
          rw [← Nat.pow_add]
          congr 1
          omega
      _ ≤ n * 2 ^ (52 - n.log2) := Nat.mul_le_mul_right _ size
  · have gap : (n.log2 - 52 : Int) = -((52 - n.log2 : Nat) : Int) := by omega
    rw [gap, zpow_neg, zpow_natCast]
    push_cast
    field_simp

theorem value_integral (negative : Bool) {magnitude : Nat} (fits : magnitude < 2 ^ 53) :
    (integral negative magnitude).isFinite = true ∧
      value (integral negative magnitude) = signed negative magnitude := by
  suffices found : ∃ mantissa exponent,
      datum (integral negative magnitude) = .finite negative mantissa exponent ∧
        (magnitude : ℚ) = mantissa * 2 ^ exponent by
    obtain ⟨mantissa, exponent, same, exact⟩ := found
    refine ⟨isFinite_iff_datum.mpr ⟨_, _, _, same⟩, ?_⟩
    rw [value_of_datum same, cast_signed, cast_signed, exact]
    cases negative <;> simp
  obtain rfl | positive := Nat.eq_zero_or_pos magnitude
  · refine ⟨0, double.leastExponent, ?_, by simp⟩
    cases negative <;> decide
  · obtain ⟨mantissa, exponent, holds, most, filled, exact⟩ := exists_holds positive fits
    refine ⟨mantissa, exponent, datum_ofRatio negative (by decide) holds most filled ?_, exact⟩
    rw [← exact]
    change (((magnitude * 1 : Nat) : ℚ)) / ((1 : Nat) : ℚ) = magnitude
    simp

/-- A power of two from one on is an integer, and one below is the inverse of one. -/
theorem zpow_eq_inv {exponent : Int} (negative : ¬0 ≤ exponent) :
    (2 : ℚ) ^ exponent = ((twoTo (-exponent).toNat : Nat) : ℚ)⁻¹ := by
  have steps : exponent = -((-exponent).toNat : Int) := by omega
  rw [cast_twoTo]
  conv_lhs => rw [steps, zpow_neg, zpow_natCast]

theorem value_eq_intCast {x : Float} {negative : Bool} {mantissa : Nat} {exponent : Int}
    (same : datum x = .finite negative mantissa exponent) (whole : 0 ≤ exponent) :
    value x = (signed negative mantissa * 2 ^ exponent.toNat : Int) := by
  have steps : exponent = (exponent.toNat : Int) := by omega
  rw [value_of_datum same]
  conv_lhs => rw [steps, zpow_natCast]
  push_cast
  rfl

theorem floor_natCast_div (n : Nat) {d : Nat} (positive : 0 < d) :
    ⌊(n / d : ℚ)⌋ = ((n / d : Nat) : Int) := by
  have scale : (0 : ℚ) < d := by exact_mod_cast positive
  have low : ((n / d * d : Nat) : ℚ) ≤ n := by exact_mod_cast Nat.div_mul_le_self n d
  have high : (n : ℚ) < ((n / d + 1) * d : Nat) := by
    exact_mod_cast Nat.lt_mul_of_div_lt (Nat.lt_succ_self (n / d)) positive
  rw [Int.floor_eq_iff, le_div_iff₀ scale, div_lt_iff₀ scale]
  push_cast at low high ⊢
  exact ⟨low, high⟩

theorem floor_neg_natCast_div (n : Nat) {d : Nat} (positive : 0 < d) :
    ⌊-(n / d : ℚ)⌋ = -(((n + d - 1) / d : Nat) : Int) := by
  have scale : (0 : ℚ) < d := by exact_mod_cast positive
  have below := Nat.div_mul_le_self (n + d - 1) d
  have above := Nat.lt_mul_of_div_lt (Nat.lt_succ_self ((n + d - 1) / d)) positive
  rw [Nat.succ_mul] at above
  generalize (n + d - 1) / d = c at below above ⊢
  have low : (c : ℚ) * d < n + d := by exact_mod_cast (show c * d < n + d by omega)
  have high : (n : ℚ) ≤ c * d := by exact_mod_cast (show n ≤ c * d by omega)
  rw [Int.floor_eq_iff, ← neg_div, le_div_iff₀ scale, div_lt_iff₀ scale]
  push_cast
  exact ⟨by linarith, by linarith⟩

variable {x : Float} (finite : x.isFinite = true)

include finite

theorem value_floor : (floor x).isFinite = true ∧ value (floor x) = ⌊value x⌋ := by
  obtain ⟨negative, mantissa, exponent, same⟩ := isFinite_iff_datum.mp finite
  obtain ⟨⟨fits, -, -⟩, -, -⟩ := holds_of_datum same
  change mantissa < 2 ^ 53 at fits
  have exact := value_of_datum same
  unfold floor
  rw [same]
  dsimp only
  by_cases whole : 0 ≤ exponent
  · rw [if_pos whole]
    refine ⟨finite, ?_⟩
    rw [value_eq_intCast same whole, Int.floor_intCast]
  · have unit := twoTo_pos (-exponent).toNat
    rw [if_neg whole]
    rw [zpow_eq_inv whole, cast_signed, ← div_eq_mul_inv] at exact
    generalize twoTo (-exponent).toNat = d at unit exact ⊢
    cases negative with
    | false =>
        obtain ⟨ok, result⟩ := value_integral false ((Nat.div_le_self mantissa d).trans_lt fits)
        rw [if_neg Bool.false_ne_true] at exact ⊢
        refine ⟨ok, ?_⟩
        rw [result, exact, floor_natCast_div mantissa unit]
        rfl
    | true =>
        have small : (mantissa + d - 1) / d < 2 ^ 53 := by
          refine Nat.lt_of_le_of_lt (Nat.le_of_lt_succ ?_) fits
          rw [Nat.div_lt_iff_lt_mul unit, Nat.succ_mul]
          have := Nat.le_mul_of_pos_right mantissa unit
          omega
        obtain ⟨ok, result⟩ := value_integral true small
        rw [if_pos rfl] at exact ⊢
        refine ⟨ok, ?_⟩
        rw [result, exact, neg_div, floor_neg_natCast_div mantissa unit]
        rfl

theorem value_roundHalfAway (nonneg : 0 ≤ value x) :
    (roundHalfAway x).isFinite = true ∧ value (roundHalfAway x) = ⌊value x + 1 / 2⌋ := by
  obtain ⟨negative, mantissa, exponent, same⟩ := isFinite_iff_datum.mp finite
  obtain ⟨⟨fits, -, -⟩, -, -⟩ := holds_of_datum same
  change mantissa < 2 ^ 53 at fits
  have exact := value_of_datum same
  unfold roundHalfAway
  rw [same]
  dsimp only
  by_cases whole : 0 ≤ exponent
  · rw [if_pos whole]
    refine ⟨finite, ?_⟩
    rw [value_eq_intCast same whole, Int.floor_intCast_add]
    norm_num
  · have unit := twoTo_pos (-exponent).toNat
    rw [if_neg whole]
    rw [zpow_eq_inv whole, cast_signed, ← div_eq_mul_inv] at exact
    generalize twoTo (-exponent).toNat = d at unit exact ⊢
    have scale : (0 : ℚ) < d := by exact_mod_cast unit
    have small : (2 * mantissa + d) / (2 * d) < 2 ^ 53 := by
      refine Nat.lt_of_le_of_lt (Nat.le_of_lt_succ ?_) fits
      have := Nat.le_mul_of_pos_right mantissa unit
      have twice : mantissa.succ * (2 * d) = 2 * (mantissa * d) + 2 * d := by
        rw [Nat.succ_mul, Nat.mul_left_comm]
      rw [Nat.div_lt_iff_lt_mul (by omega), twice]
      omega
    obtain ⟨ok, result⟩ := value_integral negative small
    refine ⟨ok, ?_⟩
    have nearest : ⌊(mantissa / d : ℚ) + 1 / 2⌋ = ((2 * mantissa + d) / (2 * d) : Nat) := by
      rw [← floor_natCast_div _ (by omega)]
      congr 1
      push_cast
      field_simp
    rw [result, exact]
    cases negative with
    | false => exact congrArg _ nearest.symm
    | true =>
        have none : mantissa = 0 := by
          rw [exact, if_pos rfl, neg_div, neg_nonneg] at nonneg
          have := (div_le_iff₀ scale).mp nonneg
          rw [zero_mul] at this
          exact_mod_cast le_antisymm this (Nat.cast_nonneg _)
        have half : (2 * 0 + d) / (2 * d) = 0 := Nat.div_eq_of_lt (by omega)
        subst none
        rw [half, if_pos rfl, Nat.cast_zero, neg_zero, zero_div, zero_add]
        norm_num [signed]

omit finite

/-- What is not finite stays as it is. -/
theorem isFinite_of_floor (finite : (floor x).isFinite = true) : x.isFinite = true := by
  unfold floor at finite
  split at finite
  next same => exact isFinite_iff_datum.mpr ⟨_, _, _, same⟩
  next => exact finite

theorem datum_ofWord_counted {mantissa : Nat} {exponent : Int}
    (holds : double.Holds mantissa exponent) (most : exponent ≤ 971) :
    datum
        (ofWord ((exponent - double.leastExponent).toNat * twoTo double.fractionBits + mantissa)) =
      .finite false mantissa exponent := by
  have counted := holds.counted_lt most
  have decoded := Format.decode_of_holds holds counted false
  refine datum_ofWord (counted.trans ?_) decoded
  decide

/-- The word above counts the mantissa up. If that carries, the exponent goes up instead. -/
theorem value_counted_succ {mantissa : Nat} {exponent : Int}
    (holds : double.Holds mantissa exponent)
    (most : exponent ≤ 970) :
    (ofWord ((exponent - double.leastExponent).toNat * twoTo double.fractionBits + mantissa +
        1)).isFinite = true ∧
      value (ofWord ((exponent - double.leastExponent).toNat * twoTo double.fractionBits +
        mantissa + 1)) = (mantissa + 1) * 2 ^ exponent := by
  obtain ⟨fits, least, full⟩ := holds
  by_cases carry : mantissa + 1 = 2 ^ 53
  · have next : double.Holds (2 ^ 52) (exponent + 1) :=
      ⟨by decide, Int.le_add_one least, .inr (Nat.le_refl _)⟩
    have same := datum_ofWord_counted next (by omega)
    have word : (exponent - double.leastExponent).toNat * twoTo double.fractionBits + mantissa + 1 =
        (exponent + 1 - double.leastExponent).toNat * twoTo double.fractionBits + 2 ^ 52 := by
      have steps : (exponent + 1 - double.leastExponent).toNat =
          (exponent - double.leastExponent).toNat + 1 := by omega
      rw [steps, Nat.succ_mul, Nat.add_assoc, carry, Nat.add_assoc]
      rfl
    rw [word]
    refine ⟨isFinite_iff_datum.mpr ⟨_, _, _, same⟩, ?_⟩
    rw [value_of_datum same, zpow_add_one₀ two_ne_zero]
    have carried : (mantissa : ℚ) + 1 = 2 ^ 53 := by exact_mod_cast carry
    rw [carried]
    change ((2 ^ 52 : Nat) : ℚ) * _ = _
    push_cast
    ring
  · have next : double.Holds (mantissa + 1) exponent := by
      change mantissa < 2 ^ 53 at fits
      exact ⟨show mantissa + 1 < 2 ^ 53 by omega, least, full.imp_right Nat.le_succ_of_le⟩
    have same := datum_ofWord_counted next (by omega)
    rw [Nat.add_assoc]
    refine ⟨isFinite_iff_datum.mpr ⟨_, _, _, same⟩, ?_⟩
    rw [value_of_datum same]
    change ((mantissa + 1 : Nat) : ℚ) * _ = _
    push_cast
    rfl

theorem value_nextUp {x : Float} {negative : Bool} {mantissa : Nat} {exponent : Int}
    (same : datum x = .finite negative mantissa exponent) (nonneg : 0 ≤ value x)
    (most : exponent ≤ 970) :
    (nextUp x).isFinite = true ∧ value (nextUp x) = (mantissa + 1) * 2 ^ exponent := by
  obtain ⟨holds, -, -⟩ := holds_of_datum same
  unfold nextUp
  rw [same]
  cases mantissa with
  | zero =>
      have least : datum (ofWord 1) = .finite false 1 (-1074) := by decide
      have bottom : exponent = -1074 := by
        rcases holds.full with bottom | full
        · exact bottom
        · exact absurd full (by decide)
      refine ⟨isFinite_iff_datum.mpr ⟨_, _, _, least⟩, ?_⟩
      change value (ofWord 1) = _
      rw [value_of_datum least, bottom]
      norm_num [signed]
  | succ below =>
      have positive : negative = false := by
        by_contra sign
        rw [Bool.not_eq_false] at sign
        subst sign
        exact (value_neg_of_datum same below.succ_pos).not_ge nonneg
      subst positive
      obtain ⟨-, -, counts⟩ := Format.eq_of_decode same
      have next : x.toBits + 1 = UInt64.ofNat (x.toBits.toNat + 1) := by
        rw [UInt64.ofNat_add, UInt64.ofNat_toNat]
        rfl
      change (Float.ofBits (x.toBits + 1)).isFinite = true ∧ value (Float.ofBits (x.toBits + 1)) = _
      rw [next, counts]
      exact value_counted_succ holds most

theorem value_nextUp_abs {x : Float} {negative : Bool} {m : Nat} {e : Int}
    (same : datum x = .finite negative m e) (most : e ≤ 970) :
    value (nextUp x.abs) = (m + 1) * 2 ^ e := by
  have finite := isFinite_iff_datum.mpr ⟨_, _, _, same⟩
  refine (value_nextUp (datum_abs same) ?_ most).2
  rw [(value_abs finite).2]
  exact abs_nonneg _

theorem exists_intCast_of_large {x : Float} (finite : x.isFinite = true)
    (large : 2 ^ (52 : Int) ≤ |value x|) : ∃ n : Int, value x = n := by
  obtain ⟨negative, m, e, same⟩ := isFinite_iff_datum.mp finite
  obtain ⟨holds, -, -⟩ := holds_of_datum same
  rw [abs_value_of_datum same, ← not_lt, holds.lt_iff (by decide)] at large
  exact ⟨_, value_eq_intCast same (by omega)⟩

/-- Equal numbers have equal places. -/
theorem value_nextUp_abs_congr {x z : Float} (finiteX : x.isFinite = true)
    (finiteZ : z.isFinite = true) (equal : value x = value z) (small : |value x| < 2 ^ (52 : Int)) :
    value (nextUp x.abs) = value (nextUp z.abs) := by
  obtain ⟨negative, m, e, same⟩ := isFinite_iff_datum.mp finiteX
  obtain ⟨negative', n, f, same'⟩ := isFinite_iff_datum.mp finiteZ
  obtain ⟨holds, -, -⟩ := holds_of_datum same
  obtain ⟨holds', -, -⟩ := holds_of_datum same'
  have sizes : (m : ℚ) * 2 ^ e = n * 2 ^ f := by
    rw [← abs_value_of_datum same, ← abs_value_of_datum same', equal]
  rw [abs_value_of_datum same] at small
  have fraction := (holds.lt_iff (by decide)).mp small
  rw [sizes] at small
  have fraction' := (holds'.lt_iff (by decide)).mp small
  rw [value_nextUp_abs same (by omega), value_nextUp_abs same' (by omega)]
  obtain below | rfl | above := lt_trichotomy e f
  · exact absurd sizes (holds.mul_lt_mul holds' below).ne
  · rw [add_mul, add_mul, sizes]
  · exact absurd sizes (holds'.mul_lt_mul holds above).ne'

end Spreadsheet.Binary
