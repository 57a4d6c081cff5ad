import Spreadsheet.Proofs.Binary.Value

/-! Rounded results. An operation on finite numbers gives the exact result to the nearest multiple
of the unit in its last place. -/

namespace Spreadsheet.Binary

open Float.Model Float.Model.UnpackedFloat

/-- The two bits behind a mantissa tell where a number stands between it and the next one. -/
structure Located (extended : ExtendedMantissa) (t : ℚ) : Prop where
  mantissa_le : extended.mantissa ≤ t
  lt_succ : t < extended.mantissa + 1
  round_iff : extended.roundBit = true ↔ extended.mantissa + 1 / 2 ≤ t
  sticky_iff : extended.stickyBit = true ↔ t ≠ extended.mantissa ∧ t ≠ extended.mantissa + 1 / 2

namespace Located

variable {extended : ExtendedMantissa} {t : ℚ} (located : Located extended t)

include located

/-- Either bit is set behind a mantissa that the number is not. -/
theorem inexact_iff :
    (extended.roundBit || extended.stickyBit) = true ↔ t ≠ extended.mantissa := by
  rw [Bool.or_eq_true, located.round_iff, located.sticky_iff]
  constructor
  · rintro (above | ⟨apart, -⟩) same
    · linarith
    · exact apart same
  · intro apart
    by_cases half : t = extended.mantissa + 1 / 2
    · exact .inl half.ge
    · exact .inr ⟨apart, half⟩

theorem shiftRightOne : Located extended.shiftRightOne (t / 2) := by
  have parts : (extended.mantissa : ℚ) =
      2 * (extended.mantissa / 2 : Nat) + (extended.mantissa % 2 : Nat) := by
    exact_mod_cast (Nat.div_add_mod extended.mantissa 2).symm
  have inexact := located.inexact_iff
  obtain ⟨low, high, -, -⟩ := located
  have bits : extended.shiftRightOne = ⟨extended.mantissa / 2, extended.mantissa % 2 != 0,
    extended.roundBit || extended.stickyBit⟩ := rfl
  rw [bits]
  obtain even | odd := Nat.mod_two_eq_zero_or_one extended.mantissa
  · rw [even, Nat.cast_zero, add_zero] at parts
    rw [even]
    refine ⟨?_, ?_, iff_of_false Bool.false_ne_true ?_, inexact.trans ⟨fun apart => ⟨fun same => ?_,
      fun same => ?_⟩, fun apart same => apart.1 ?_⟩⟩ <;>
      dsimp only at * <;> first | linarith | skip
    exact apart (by linarith)
  · rw [odd, Nat.cast_one] at parts
    rw [odd]
    refine ⟨?_, ?_, iff_of_true rfl ?_, inexact.trans ⟨fun apart => ⟨fun same => ?_,
      fun same => ?_⟩, fun apart same => apart.2 ?_⟩⟩ <;>
      dsimp only at * <;> first | linarith | skip
    exact apart (by linarith)

theorem shiftRight (places : Nat) : Located (extended >>> places) (t / 2 ^ places) := by
  induction places with
  | zero =>
      rw [pow_zero, div_one]
      exact located
  | succ places ih =>
      rw [pow_succ, ← div_div]
      exact ih.shiftRightOne

/-- A mantissa is rounded to an integer next to the number, at most half a unit away. -/
theorem abs_rounded_sub_le : |(extended.roundedMantissa : ℚ) - t| ≤ 1 / 2 := by
  obtain ⟨mantissa, half, rest⟩ := extended
  obtain ⟨low, high, round, sticky⟩ := located
  dsimp only at low high round sticky
  rw [abs_le]
  cases half with
  | false =>
      have below : t < mantissa + 1 / 2 := not_le.mp fun above => by cases round.mpr above
      have down : ExtendedMantissa.roundedMantissa ⟨mantissa, false, rest⟩ = mantissa := by
        cases rest <;> rfl
      rw [down]
      constructor <;> linarith
  | true =>
      have above := round.mp rfl
      cases rest with
      | true =>
          change _ ≤ ((mantissa + 1 : Nat) : ℚ) - t ∧ ((mantissa + 1 : Nat) : ℚ) - t ≤ _
          push_cast
          constructor <;> linarith
      | false =>
          have tie : t = mantissa + 1 / 2 := by
            by_contra apart
            cases sticky.mpr ⟨by linarith, apart⟩
          change _ ≤ ((mantissa + mantissa % 2 : Nat) : ℚ) - t ∧
            ((mantissa + mantissa % 2 : Nat) : ℚ) - t ≤ _
          obtain even | odd := Nat.mod_two_eq_zero_or_one mantissa
          · rw [even]
            push_cast
            constructor <;> linarith
          · rw [odd]
            push_cast
            constructor <;> linarith

end Located

/-- The result for an exact number: `n` units, a unit being that of the last place of the number. -/
structure RoundsAt (y : ℚ) (x : Float) (unit : Int) (n : Int) : Prop where
  least_le : -1074 ≤ unit
  full : unit = -1074 ∨ (2 : ℚ) ^ (unit + 52) ≤ |y|
  fits : |y| < 2 ^ (unit + 53)
  near : |n - y / 2 ^ unit| ≤ 1 / 2
  isFinite : |(n : ℚ)| * 2 ^ unit < 2 ^ (1024 : Int) → x.isFinite = true
  value_eq : x.isFinite = true → value x = n * 2 ^ unit

def Rounds (y : ℚ) (x : Float) : Prop := ∃ unit n, RoundsAt y x unit n

section Round

/-- How many binary places are shifted out to reach the unit of the last place. -/
def placesBelow (mantissa : Nat) (exponent : Int) : Nat :=
  (max (mantissa.log2 + exponent - 52) (-1074) - exponent).toNat

theorem shiftToTargetExponent_eq (mantissa : Nat) (exponent : Int) (accuracy : Accuracy) :
    shiftToTargetExponent Format.binary64 mantissa exponent accuracy =
      (ExtendedMantissa.ofMantissaAndAccuracy mantissa accuracy >>> placesBelow mantissa exponent,
        exponent + placesBelow mantissa exponent) := by
  have places : (max (mantissa.log2 + 1 + exponent - 53) (-1074) - exponent).toNat =
      placesBelow mantissa exponent := by
    unfold placesBelow
    congr 3
    omega
  rw [← places]
  rfl

/-- A mantissa that has been rounded is not changed again, except that a carry moves it. -/
theorem roundWithAccuracy_eq {mantissa : Nat} {exponent : Int} {accuracy : Accuracy}
    {extended : ExtendedMantissa} {unit : Int}
    (shifted : shiftToTargetExponent Format.binary64 mantissa exponent accuracy = (extended, unit))
    (least : -1074 ≤ unit) (fits : extended.roundedMantissa ≤ 2 ^ 53) (sign : Sign) :
    (extended.roundedMantissa = 0 ∧
      roundWithAccuracy Format.binary64 sign mantissa exponent accuracy = .zero sign) ∨
    (∃ positive, extended.roundedMantissa < 2 ^ 53 ∧
      roundWithAccuracy Format.binary64 sign mantissa exponent accuracy =
        .finite sign extended.roundedMantissa unit positive) ∨
    (extended.roundedMantissa = 2 ^ 53 ∧
      roundWithAccuracy Format.binary64 sign mantissa exponent accuracy =
        .finite sign (2 ^ 52) (unit + 1) (by decide)) := by
  unfold roundWithAccuracy
  rw [shifted]
  dsimp only
  generalize extended.roundedMantissa = rounded at fits ⊢
  rw [shiftToTargetExponent_eq]
  obtain small | carried := Nat.lt_or_eq_of_le fits
  · have places : rounded.log2 ≤ 52 := by
      by_cases none : rounded = 0
      · rw [none]
        decide
      · exact Nat.le_of_lt_succ ((Nat.log2_lt none).mpr small)
    have stays : placesBelow rounded unit = 0 := by
      unfold placesBelow
      omega
    rw [stays]
    by_cases none : rounded = 0
    · exact .inl ⟨none, dif_pos none⟩
    · refine .inr (.inl ⟨Nat.pos_of_ne_zero none, small, ?_⟩)
      refine (dif_neg none).trans ?_
      congr 1
      exact Int.add_zero unit
  · have moves : placesBelow rounded unit = 1 := by
      have places : rounded.log2 = 53 := by rw [carried, Nat.log2_two_pow]
      unfold placesBelow
      omega
    rw [moves]
    refine .inr (.inr ⟨carried, ?_⟩)
    subst carried
    exact dif_neg (Nat.two_pow_pos 52).ne'

/-! The sign of a result is applied to its magnitude. -/

theorem cast_apply (sign : Sign) (n : Int) : (sign.apply n : ℚ) = sign.apply 1 * n := by
  cases sign with
  | negative => simp [Sign.apply]
  | positive => simp [Sign.apply]

theorem abs_apply_one (sign : Sign) : |(sign.apply 1 : ℚ)| = 1 := by
  cases sign with
  | negative => simp [Sign.apply]
  | positive => simp [Sign.apply]

/-- A number below the largest power is finite, and no other result has a value. -/
theorem pack_of_holds (sign : Sign) {mantissa : Nat} {exponent : Int} (positive : 0 < mantissa)
    (holds : double.Holds mantissa exponent) :
    ((mantissa : ℚ) * 2 ^ exponent < 2 ^ (1024 : Int) →
      (Float.ofModel (.pack (.finite sign mantissa exponent positive))).isFinite = true) ∧
    ((Float.ofModel (.pack (.finite sign mantissa exponent positive))).isFinite = true →
      value (Float.ofModel (.pack (.finite sign mantissa exponent positive))) =
        sign.apply mantissa * 2 ^ exponent) := by
  by_cases bounded : exponent ≤ 971
  · obtain ⟨finite, value⟩ := value_pack sign positive holds bounded
    exact ⟨fun _ => finite, fun _ => value⟩
  · have infinite := isFinite_pack_infinite sign positive (not_le.mp bounded)
    refine ⟨fun small => absurd ((holds.lt_iff (by decide)).mp small) (by omega), fun finite => ?_⟩
    rw [infinite] at finite
    cases finite

theorem roundsAt_of_near {sign : Sign} {unit : Int} {rounded : Nat} {t : ℚ} {x : Float}
    (least : -1074 ≤ unit) (full : unit = -1074 ∨ 2 ^ 52 ≤ t) (nonneg : 0 ≤ t) (fits : t < 2 ^ 53)
    (near : |(rounded : ℚ) - t| ≤ 1 / 2)
    (isFinite : (rounded : ℚ) * 2 ^ unit < 2 ^ (1024 : Int) → x.isFinite = true)
    (value_eq : x.isFinite = true → value x = sign.apply rounded * 2 ^ unit) :
    RoundsAt ((sign.apply 1 : ℚ) * (t * 2 ^ unit)) x unit (sign.apply rounded) := by
  have scale : (0 : ℚ) < 2 ^ unit := by positivity
  have size : |(sign.apply 1 : ℚ) * (t * 2 ^ unit)| = t * 2 ^ unit := by
    rw [abs_mul, abs_apply_one, one_mul, abs_of_nonneg (by positivity)]
  refine ⟨least, full.imp_right fun full => ?_, ?_, ?_, fun small => isFinite ?_, value_eq⟩
  · rw [size, zpow_add₀ two_ne_zero, mul_comm]
    exact mul_le_mul_of_nonneg_right full scale.le
  · rw [size, zpow_add₀ two_ne_zero, mul_comm (2 ^ unit : ℚ)]
    exact mul_lt_mul_of_pos_right fits scale
  · have exact : (sign.apply rounded : ℚ) - sign.apply 1 * (t * 2 ^ unit) / 2 ^ unit =
        sign.apply 1 * (rounded - t) := by
      rw [cast_apply sign rounded, ← mul_assoc, mul_div_cancel_right₀ _ scale.ne', mul_sub]
      rfl
    rwa [exact, abs_mul, abs_apply_one, one_mul]
  · rw [cast_apply, abs_mul, abs_apply_one, one_mul] at small
    rwa [← abs_of_nonneg (Nat.cast_nonneg (α := ℚ) rounded)]

theorem rounded_bounds {unit : Int} {rounded : Nat} {t : ℚ} (full : unit = -1074 ∨ 2 ^ 52 ≤ t)
    (fits : t < 2 ^ 53) (near : |(rounded : ℚ) - t| ≤ 1 / 2) :
    rounded ≤ 2 ^ 53 ∧ (unit = -1074 ∨ 2 ^ 52 ≤ rounded) := by
  obtain ⟨low, high⟩ := abs_le.mp near
  refine ⟨?_, full.imp_right fun full => ?_⟩
  · have below : (rounded : ℚ) < 2 ^ 53 + 1 := by linarith
    exact Nat.le_of_lt_succ (by exact_mod_cast below)
  · have above : (2 ^ 52 : ℚ) < rounded + 1 := by linarith
    exact Nat.le_of_lt_succ (by exact_mod_cast above)

variable {mantissa : Nat} {exponent : Int} {accuracy : Accuracy} {t : ℚ}
  (located : Located (ExtendedMantissa.ofMantissaAndAccuracy mantissa accuracy) t)
  (fine : exponent ≤ max (mantissa.log2 + exponent - 52) (-1074))

include located fine

/-- The places that are known reach down to the unit. What is left of the number above it fits the
mantissa, and fills it unless the unit is the least one. -/
theorem shifted_bounds :
    t / 2 ^ placesBelow mantissa exponent < 2 ^ 53 ∧
      (exponent + placesBelow mantissa exponent = -1074 ∨
        2 ^ 52 ≤ t / 2 ^ placesBelow mantissa exponent) := by
  have start : (ExtendedMantissa.ofMantissaAndAccuracy mantissa accuracy).mantissa = mantissa := by
    rcases accuracy with _ | _ | _ | _ <;> rfl
  have low := located.mantissa_le
  have high := located.lt_succ
  rw [start] at low high
  have unit : exponent + placesBelow mantissa exponent =
      max (mantissa.log2 + exponent - 52) (-1074) := by
    unfold placesBelow
    omega
  generalize placesBelow mantissa exponent = places at unit ⊢
  have scale : (0 : ℚ) < 2 ^ places := by positivity
  constructor
  · rw [div_lt_iff₀ scale, ← pow_add]
    have size : mantissa + 1 ≤ 2 ^ (53 + places) :=
      Nat.lt_log2_self.trans_le (Nat.pow_le_pow_right (by decide) (by omega))
    calc t < mantissa + 1 := high
      _ ≤ 2 ^ (53 + places) := by exact_mod_cast size
  · by_cases bottom : exponent + places = -1074
    · exact .inl bottom
    · right
      rw [le_div_iff₀ scale, ← pow_add]
      have filled : mantissa ≠ 0 := by
        rintro rfl
        rw [Nat.log2_zero] at unit fine
        omega
      have size : 2 ^ (52 + places) ≤ mantissa := by
        have places : 52 + places = mantissa.log2 := by omega
        rw [places]
        exact Nat.log2_self_le filled
      calc (2 : ℚ) ^ (52 + places) ≤ mantissa := by exact_mod_cast size
        _ ≤ t := low

/-- An exact number of which enough places are known is rounded in the last place. -/
theorem rounds_roundWithAccuracy (sign : Sign) :
    Rounds ((sign.apply 1 : ℚ) * (t * 2 ^ exponent))
      (Float.ofModel
        (.pack (roundWithAccuracy Format.binary64 sign mantissa exponent accuracy))) := by
  obtain ⟨fits, full⟩ := shifted_bounds located fine
  have shifted := shiftToTargetExponent_eq mantissa exponent accuracy
  have least : -1074 ≤ exponent + placesBelow mantissa exponent := by
    unfold placesBelow
    omega
  have near := (located.shiftRight (placesBelow mantissa exponent)).abs_rounded_sub_le
  have scaled : t * 2 ^ exponent = t / 2 ^ placesBelow mantissa exponent *
      2 ^ (exponent + placesBelow mantissa exponent) := by
    rw [zpow_add₀ two_ne_zero, zpow_natCast]
    field_simp
  have nonneg : 0 ≤ t / 2 ^ placesBelow mantissa exponent := by
    have low := located.mantissa_le
    have : 0 ≤ t := le_trans (Nat.cast_nonneg _) low
    positivity
  rw [scaled]
  generalize exponent + placesBelow mantissa exponent = unit at *
  generalize t / 2 ^ placesBelow mantissa exponent = s at *
  generalize ExtendedMantissa.ofMantissaAndAccuracy mantissa accuracy >>>
    placesBelow mantissa exponent = extended at *
  obtain ⟨size, filled⟩ := rounded_bounds full fits near
  refine ⟨unit, sign.apply extended.roundedMantissa, ?_⟩
  obtain ⟨none, same⟩ | ⟨positive, small, same⟩ | ⟨carried, same⟩ :=
    roundWithAccuracy_eq shifted least size sign
  · obtain ⟨finite, value⟩ := value_pack_zero sign
    rw [same]
    refine roundsAt_of_near least full nonneg fits near (fun _ => finite) fun _ => ?_
    rw [value, none]
    cases sign <;> simp [Sign.apply]
  · have holds : double.Holds extended.roundedMantissa unit := ⟨small, least, filled⟩
    obtain ⟨finite, value⟩ := pack_of_holds sign positive holds
    rw [same]
    exact roundsAt_of_near least full nonneg fits near finite value
  · have holds : double.Holds (2 ^ 52) (unit + 1) :=
      ⟨by decide, Int.le_add_one least, .inr (Nat.le_refl _)⟩
    obtain ⟨finite, value⟩ := pack_of_holds sign (by decide) holds
    have twice : ((2 ^ 52 : Nat) : ℚ) * 2 ^ (unit + 1) = (2 ^ 53 : Nat) * 2 ^ unit := by
      rw [zpow_add_one₀ two_ne_zero]
      push_cast
      ring
    rw [same]
    refine roundsAt_of_near least full nonneg fits near (fun small => finite ?_) fun ok => ?_
    · rwa [twice, ← carried]
    · rw [value ok, carried, cast_apply, cast_apply sign (2 ^ 53 : Nat), mul_assoc, mul_assoc]
      exact congrArg _ twice

end Round

/-- A number of at most 53 binary places, within the exponents of finite numbers. -/
def Representable (y : ℚ) : Prop :=
  ∃ n k : Int, |n| < 2 ^ 53 ∧ -1074 ≤ k ∧ k ≤ 971 ∧ y = n * 2 ^ k

theorem representable_intCast {n : Int} (small : |n| < 2 ^ 53) : Representable n :=
  ⟨n, 0, small, by decide, by decide, by rw [zpow_zero, mul_one]⟩

theorem representable_zero : Representable 0 :=
  ⟨0, 0, by decide, by decide, by decide, by rw [Int.cast_zero, zero_mul]⟩

theorem Representable.neg {y : ℚ} (representable : Representable y) : Representable (-y) := by
  obtain ⟨n, k, fits, least, most, rfl⟩ := representable
  refine ⟨-n, k, by rwa [abs_neg], least, most, ?_⟩
  rw [Int.cast_neg, neg_mul]

/-- A multiple of a greater unit is one of a smaller unit. -/
theorem exists_units (n : Int) {unit k : Int} (fine : unit ≤ k) :
    ∃ m : Int, (n * 2 ^ k : ℚ) = m * 2 ^ unit := by
  obtain ⟨steps, gap⟩ := Int.eq_ofNat_of_zero_le (Int.sub_nonneg.mpr fine)
  have exponent : k = steps + unit := by omega
  refine ⟨n * 2 ^ steps, ?_⟩
  rw [exponent, zpow_add₀ two_ne_zero, zpow_natCast, ← mul_assoc, Int.cast_mul, Int.cast_pow,
    Int.cast_ofNat]

theorem Representable.units {y : ℚ} (representable : Representable y) :
    ∃ n : Int, y = n * 2 ^ (-1074 : Int) := by
  obtain ⟨n, k, -, least, -, rfl⟩ := representable
  exact exists_units n least

/-- A mantissa of 53 places stays below the power behind its last place. -/
theorem abs_mul_zpow_lt {n : Int} (fits : |n| < 2 ^ 53) (k : Int) :
    |(n * 2 ^ k : ℚ)| < 2 ^ (53 + k) := by
  have last : (0 : ℚ) < 2 ^ k := by positivity
  have places : |(n : ℚ)| < 2 ^ (53 : Int) := by exact_mod_cast fits
  rw [abs_mul, abs_of_pos last, zpow_add₀ two_ne_zero]
  exact mul_lt_mul_of_pos_right places last

theorem Representable.abs_lt {y : ℚ} (representable : Representable y) :
    |y| < 2 ^ (1024 : Int) := by
  obtain ⟨n, k, fits, -, most, rfl⟩ := representable
  exact (abs_mul_zpow_lt fits k).trans_le (zpow_le_zpow_right₀ one_le_two (by omega))

/-- Where rounded results are multiples of a unit, the representable numbers are as well. -/
theorem Representable.multiple {y : ℚ} (representable : Representable y) {unit : Int}
    (full : unit = -1074 ∨ (2 : ℚ) ^ (unit + 52) ≤ |y|) : ∃ n : Int, y = n * 2 ^ unit := by
  obtain ⟨n, k, fits, least, -, rfl⟩ := representable
  refine exists_units n ?_
  rcases full with bottom | full
  · omega
  · have := (zpow_lt_zpow_iff_right₀ one_lt_two).mp (full.trans_lt (abs_mul_zpow_lt fits k))
    omega

/-- A number of units next to `y` is not past a representable number that `y` is not past. -/
theorem units_le {y c : ℚ} {unit n : Int} (full : unit = -1074 ∨ (2 : ℚ) ^ (unit + 52) ≤ |y|)
    (near : |n - y / 2 ^ unit| ≤ 1 / 2) (representable : Representable c) (above : y ≤ c) :
    n * 2 ^ unit ≤ c := by
  obtain ⟨m, k, fits, low, -, rfl⟩ := representable
  have scale : (0 : ℚ) < 2 ^ unit := by positivity
  have high := (abs_le.mp near).2
  obtain fine | coarse := le_or_gt unit k
  · -- The representable number is a number of units as well.
    obtain ⟨whole, units⟩ := exists_units m fine
    rw [units] at above ⊢
    have reach := (div_le_iff₀ scale).mpr above
    have next : n < whole + 1 := by
      have : (n : ℚ) < whole + 1 := by linarith
      exact_mod_cast this
    refine mul_le_mul_of_nonneg_right ?_ scale.le
    exact_mod_cast Int.le_of_lt_add_one next
  · -- All representable numbers at its exponent are smaller than `y`, so `y` is negative.
    have filled : (2 : ℚ) ^ (unit + 52) ≤ |y| := by
      rcases full with bottom | full
      · omega
      · exact full
    have size : |(m : ℚ) * 2 ^ k| < 2 ^ (unit + 52) :=
      (abs_mul_zpow_lt fits k).trans_le (zpow_le_zpow_right₀ one_le_two (by omega))
    obtain ⟨least, most⟩ := abs_lt.mp size
    have places : (2 : ℚ) ^ (unit + 52) = 2 ^ (52 : Int) * 2 ^ unit := by
      rw [add_comm, zpow_add₀ two_ne_zero]
    rcases le_abs'.mp filled with negative | positive
    · rw [places, ← neg_mul, ← div_le_iff₀ scale] at negative
      have whole : n < -2 ^ 52 + 1 := by
        have : (n : ℚ) < -2 ^ (52 : Int) + 1 := by linarith
        exact_mod_cast this
      have whole : (n : ℚ) ≤ -2 ^ (52 : Int) := by exact_mod_cast Int.le_of_lt_add_one whole
      calc (n : ℚ) * 2 ^ unit ≤ -2 ^ (52 : Int) * 2 ^ unit :=
            mul_le_mul_of_nonneg_right whole scale.le
        _ = -2 ^ (unit + 52) := by rw [places, neg_mul]
        _ ≤ m * 2 ^ k := least.le
    · linarith

theorem le_units {y c : ℚ} {unit n : Int} (full : unit = -1074 ∨ (2 : ℚ) ^ (unit + 52) ≤ |y|)
    (near : |n - y / 2 ^ unit| ≤ 1 / 2) (representable : Representable c) (below : c ≤ y) :
    c ≤ n * 2 ^ unit := by
  have opposite : |((-n : Int) : ℚ) - -y / 2 ^ unit| ≤ 1 / 2 := by
    rwa [Int.cast_neg, neg_div, ← neg_sub', abs_neg]
  rw [← abs_neg] at full
  have least := units_le full opposite representable.neg (neg_le_neg below)
  rwa [Int.cast_neg, neg_mul, neg_le_neg_iff] at least

theorem representable_value {x : Float} (finite : x.isFinite = true) : Representable (value x) := by
  obtain ⟨negative, mantissa, exponent, same⟩ := isFinite_iff_datum.mp finite
  obtain ⟨holds, -, -⟩ := holds_of_datum same
  refine ⟨signed negative mantissa, exponent, ?_, holds.least_le, exponent_le same,
    value_of_datum same⟩
  have fits : mantissa < 2 ^ 53 := holds.fits
  unfold signed
  split
  · rw [abs_neg, Nat.abs_cast]
    exact_mod_cast fits
  · rw [Nat.abs_cast]
    exact_mod_cast fits

namespace RoundsAt

variable {y y' : ℚ} {x x' : Float} {unit unit' n n' : Int} (rounds : RoundsAt y x unit n)

include rounds

theorem abs_value_sub_le (finite : x.isFinite = true) : |value x - y| ≤ 1 / 2 * 2 ^ unit := by
  have scale : (0 : ℚ) < 2 ^ unit := by positivity
  have apart : value x - y = (n - y / 2 ^ unit) * 2 ^ unit := by
    rw [rounds.value_eq finite, sub_mul, div_mul_cancel₀ _ scale.ne']
  rw [apart, abs_mul, abs_of_pos scale]
  exact mul_le_mul_of_nonneg_right rounds.near scale.le

/-- A greater number does not have a smaller unit. -/
theorem unit_le (rounds' : RoundsAt y' x' unit' n') (below : |y| ≤ |y'|) : unit ≤ unit' := by
  rcases rounds.full with bottom | full
  · rw [bottom]
    exact rounds'.least_le
  · have := (zpow_lt_zpow_iff_right₀ one_lt_two).mp ((full.trans below).trans_lt rounds'.fits)
    omega

end RoundsAt

namespace Rounds

variable {y : ℚ} {x : Float}

/-- A finite number is the result for its own value. -/
theorem self (finite : x.isFinite = true) : Rounds (value x) x := by
  obtain ⟨negative, mantissa, exponent, same⟩ := isFinite_iff_datum.mp finite
  obtain ⟨⟨fits, least, full⟩, -, -⟩ := holds_of_datum same
  have value := value_of_datum same
  have scale : (0 : ℚ) < 2 ^ exponent := by positivity
  have size := abs_value_of_datum same
  rw [value] at size ⊢
  refine ⟨exponent, signed negative mantissa, least, full.imp_right fun full => ?_, ?_, ?_,
    fun _ => finite, fun _ => value⟩
  · rw [size, zpow_add₀ two_ne_zero, mul_comm]
    exact mul_le_mul_of_nonneg_right (by exact_mod_cast full) scale.le
  · rw [size, zpow_add₀ two_ne_zero, mul_comm (2 ^ exponent : ℚ)]
    exact mul_lt_mul_of_pos_right (by exact_mod_cast fits) scale
  · rw [mul_div_cancel_right₀ _ scale.ne', sub_self, abs_zero]
    norm_num

variable (rounds : Rounds y x)

include rounds

/-- A representable number is its own result. -/
theorem exact (representable : Representable y) : x.isFinite = true ∧ value x = y := by
  obtain ⟨unit, n, least, full, -, near, finite, value⟩ := rounds
  obtain ⟨m, units⟩ := representable.multiple full
  have scale : (0 : ℚ) < 2 ^ unit := by positivity
  have unique : n = m := by
    rw [units, mul_div_cancel_right₀ _ scale.ne', ← Int.cast_sub, ← Int.cast_abs] at near
    have : |n - m| < 1 := by
      exact_mod_cast near.trans_lt (by norm_num : (1 / 2 : ℚ) < 1)
    exact sub_eq_zero.mp (Int.abs_lt_one_iff.mp this)
  have result : (n : ℚ) * 2 ^ unit = y := by rw [unique, units]
  have ok := finite (by
    rw [← abs_of_pos scale, ← abs_mul, result]
    exact representable.abs_lt)
  exact ⟨ok, (value ok).trans result⟩

/-- Rounding takes no number past a representable one. -/
theorem value_le {c : ℚ} (representable : Representable c) (above : y ≤ c)
    (finite : x.isFinite = true) : value x ≤ c := by
  obtain ⟨unit, n, -, full, -, near, -, value⟩ := rounds
  rw [value finite]
  exact units_le full near representable above

theorem le_value {c : ℚ} (representable : Representable c) (below : c ≤ y)
    (finite : x.isFinite = true) : c ≤ value x := by
  obtain ⟨unit, n, -, full, -, near, -, value⟩ := rounds
  rw [value finite]
  exact le_units full near representable below

theorem le_abs_value {c : ℚ} (representable : Representable c) (below : c ≤ |y|)
    (finite : x.isFinite = true) : c ≤ |value x| := by
  rcases le_abs'.mp below with negative | positive
  · have := rounds.value_le representable.neg negative finite
    exact le_abs'.mpr (.inl this)
  · exact le_abs'.mpr (.inr (rounds.le_value representable positive finite))

/-- Half a unit is a small part of a number that has all its places. -/
theorem abs_value_sub_le (finite : x.isFinite = true) (normal : (2 : ℚ) ^ (-1022 : Int) ≤ |y|) :
    |value x - y| ≤ 2 ^ (-53 : Int) * |y| := by
  obtain ⟨unit, n, rounds⟩ := rounds
  have filled : (2 : ℚ) ^ (unit + 52) ≤ |y| := by
    rcases rounds.full with bottom | full
    · rwa [bottom]
    · exact full
  have half : 1 / 2 * (2 : ℚ) ^ unit = 2 ^ (-53 : Int) * 2 ^ (unit + 52) := by
    rw [← zpow_add₀ two_ne_zero, show (-53 : Int) + (unit + 52) = unit - 1 by omega,
      zpow_sub_one₀ two_ne_zero]
    ring
  calc |Binary.value x - y| ≤ 1 / 2 * 2 ^ unit := rounds.abs_value_sub_le finite
    _ = 2 ^ (-53 : Int) * 2 ^ (unit + 52) := half
    _ ≤ 2 ^ (-53 : Int) * |y| := mul_le_mul_of_nonneg_left filled (by positivity)

theorem isFinite (small : |y| < 2 ^ (1023 : Int)) : x.isFinite = true := by
  obtain ⟨unit, n, least, full, -, near, finite, -⟩ := rounds
  have scale : (0 : ℚ) < 2 ^ unit := by positivity
  have unit_le : (2 : ℚ) ^ unit ≤ 2 ^ (1023 : Int) := by
    rcases full with bottom | full
    · exact zpow_le_zpow_right₀ one_le_two (by omega)
    · refine (zpow_le_zpow_right₀ one_le_two ?_).trans (full.trans small.le)
      omega
  refine finite ?_
  have triangle : |(n : ℚ)| ≤ |y| / 2 ^ unit + 1 / 2 := by
    have := abs_sub_abs_le_abs_sub (n : ℚ) (y / 2 ^ unit)
    rw [abs_div, abs_of_pos scale] at this
    linarith
  have half : 1 / 2 * (2 : ℚ) ^ unit < 2 ^ (1023 : Int) :=
    (mul_lt_of_lt_one_left scale (by norm_num)).trans_le unit_le
  calc |(n : ℚ)| * 2 ^ unit ≤ (|y| / 2 ^ unit + 1 / 2) * 2 ^ unit :=
        mul_le_mul_of_nonneg_right triangle scale.le
    _ = |y| + 1 / 2 * 2 ^ unit := by rw [add_mul, div_mul_cancel₀ _ scale.ne']
    _ < 2 ^ (1023 : Int) + 2 ^ (1023 : Int) := add_lt_add small half
    _ = 2 ^ (1024 : Int) := by
        rw [show (1024 : Int) = 1023 + 1 from rfl, zpow_add_one₀ two_ne_zero]
        ring

/-- What is no farther from zero than a representable number has a finite result. -/
theorem isFinite_of_abs_le {c : ℚ} (representable : Representable c) (bound : |y| ≤ c) :
    x.isFinite = true := by
  obtain ⟨unit, n, -, full, -, near, finite, -⟩ := rounds
  obtain ⟨low, high⟩ := abs_le.mp bound
  have scale : (0 : ℚ) < 2 ^ unit := by positivity
  have size : |(n : ℚ) * 2 ^ unit| ≤ c := abs_le.mpr
    ⟨le_units full near representable.neg low, units_le full near representable high⟩
  rw [abs_mul, abs_of_pos scale] at size
  exact finite ((size.trans (le_abs_self c)).trans_lt representable.abs_lt)

end Rounds

/-- Of two numbers that are not negative the greater one does not have the smaller result. If it
did, the results would be less than a unit apart. -/
theorem Rounds.value_le_value {y y' : ℚ} {x x' : Float} (rounds : Rounds y x)
    (rounds' : Rounds y' x') (nonneg : 0 ≤ y) (less : y < y') (finite : x.isFinite = true)
    (finite' : x'.isFinite = true) : value x ≤ value x' := by
  by_contra crossed
  have below : value x' < y := by
    by_contra notBelow
    exact crossed (rounds.value_le (representable_value finite') (not_lt.mp notBelow) finite)
  have above : y' < value x := by
    by_contra notAbove
    exact crossed (rounds'.le_value (representable_value finite) (not_lt.mp notAbove) finite')
  obtain ⟨unit, n, rounds⟩ := rounds
  obtain ⟨unit', n', rounds'⟩ := rounds'
  have scale' : (0 : ℚ) < 2 ^ unit' := by positivity
  have growing : |y| ≤ |y'| := abs_le_abs_of_nonneg nonneg less.le
  have coarser : (2 : ℚ) ^ unit ≤ 2 ^ unit' :=
    zpow_le_zpow_right₀ one_le_two (rounds.unit_le rounds' growing)
  have reached : |y'| ≤ |value x| := abs_le_abs_of_nonneg (nonneg.trans less.le) above.le
  obtain ⟨m, multiple⟩ := (representable_value finite).multiple
    (rounds'.full.imp_right fun full => full.trans reached)
  have apart : (n' : ℚ) + 1 ≤ m := by
    rw [rounds'.value_eq finite', multiple, not_le] at crossed
    exact_mod_cast (mul_lt_mul_iff_left₀ scale').mp crossed
  have gap : value x' + 2 ^ unit' ≤ value x := by
    rw [rounds'.value_eq finite', multiple, ← add_one_mul]
    exact mul_le_mul_of_nonneg_right apart scale'.le
  have up := (abs_le.mp (rounds.abs_value_sub_le finite)).2
  have down := (abs_le.mp (rounds'.abs_value_sub_le finite')).1
  linarith

end Spreadsheet.Binary
