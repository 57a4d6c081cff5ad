import Spreadsheet.Proofs.Binary.Rounding

/-! Operations on finite numbers. Products, quotients and differences are the exact ones, rounded
once; signs and comparisons are exact. -/

namespace Spreadsheet.Binary

open Float.Model Float.Model.UnpackedFloat

theorem rounds_zero (sign : Sign) : Rounds 0 (Float.ofModel (.pack (.zero sign))) := by
  obtain ⟨finite, zero⟩ := value_pack_zero sign
  have rounds := Rounds.self finite
  rwa [zero] at rounds

theorem located_exact (mantissa : Nat) :
    Located (ExtendedMantissa.ofMantissaAndAccuracy mantissa .exact) mantissa where
  mantissa_le := le_refl (mantissa : ℚ)
  lt_succ := lt_add_one (mantissa : ℚ)
  round_iff := iff_of_false Bool.false_ne_true (by
    change ¬(mantissa : ℚ) + 1 / 2 ≤ mantissa
    linarith)
  sticky_iff := iff_of_false Bool.false_ne_true fun apart => apart.1 rfl

/-- The quotient is located by twice the remainder. -/
theorem located_quotient (num : Nat) {den : Nat} (positive : 0 < den) :
    Located (ExtendedMantissa.ofMantissaAndAccuracy (num / den)
      (accuracyOfFraction (num % den) den)) (num / den : ℚ) := by
  have parts : (num : ℚ) = den * (num / den : Nat) + (num % den : Nat) := by
    exact_mod_cast (Nat.div_add_mod num den).symm
  have small : ((num % den : Nat) : ℚ) < den := by exact_mod_cast Nat.mod_lt num positive
  have nonneg : (0 : ℚ) ≤ (num % den : Nat) := Nat.cast_nonneg _
  have scale : (0 : ℚ) < den := by exact_mod_cast positive
  have ratio : (num / den : ℚ) = (num / den : Nat) + (num % den : Nat) / den := by
    rw [parts]
    field_simp
  unfold accuracyOfFraction
  split
  next none =>
    rw [ratio, none, Nat.cast_zero, zero_div, add_zero]
    exact located_exact _
  next some =>
    have some : (0 : ℚ) < (num % den : Nat) := by exact_mod_cast Nat.pos_of_ne_zero some
    have above : 0 < ((num % den : Nat) : ℚ) / den := div_pos some scale
    have below : ((num % den : Nat) : ℚ) / den < 1 := (div_lt_one scale).mpr small
    have mantissa (order : Ordering) : (ExtendedMantissa.ofMantissaAndAccuracy (num / den)
        (.inexact order)).mantissa = num / den := by cases order <;> rfl
    rw [ratio]
    obtain less | tie | more := Nat.lt_trichotomy (2 * (num % den)) den
    · have low : ((num % den : Nat) : ℚ) / den < 1 / 2 := by
        rw [div_lt_iff₀ scale]
        have : (2 : ℚ) * (num % den : Nat) < den := by exact_mod_cast less
        linarith
      rw [Nat.compare_eq_lt.mpr less]
      refine ⟨?_, ?_, iff_of_false Bool.false_ne_true ?_, iff_of_true rfl ⟨?_, ?_⟩⟩ <;>
        rw [mantissa] <;> linarith
    · have half : ((num % den : Nat) : ℚ) / den = 1 / 2 := by
        rw [div_eq_iff scale.ne']
        have : (2 : ℚ) * (num % den : Nat) = den := by exact_mod_cast tie
        linarith
      rw [Nat.compare_eq_eq.mpr tie, half]
      refine ⟨?_, ?_, iff_of_true rfl ?_,
        iff_of_false Bool.false_ne_true fun apart => apart.2 ?_⟩ <;>
        rw [mantissa] <;> linarith
    · have high : 1 / 2 < ((num % den : Nat) : ℚ) / den := by
        rw [lt_div_iff₀ scale]
        have : (den : ℚ) < 2 * (num % den : Nat) := by exact_mod_cast more
        linarith
      rw [Nat.compare_eq_gt.mpr more]
      refine ⟨?_, ?_, iff_of_true rfl ?_, iff_of_true rfl ⟨?_, ?_⟩⟩ <;>
        rw [mantissa] <;> linarith

theorem apply_neg (s : Sign) (n : Int) : (-s).apply n = -s.apply n := by
  cases s with
  | negative => exact (Int.neg_neg n).symm
  | positive => rfl

theorem apply_mul (s t : Sign) : ((s * t).apply 1 : ℚ) = s.apply 1 * t.apply 1 := by
  have signs : (s * t).apply 1 = s.apply 1 * t.apply 1 := by cases s <;> cases t <;> rfl
  rw [signs, Int.cast_mul]

theorem apply_div (s t : Sign) : ((s / t).apply 1 : ℚ) = s.apply 1 / t.apply 1 := by
  have signs : (s / t).apply 1 = s.apply 1 * t.apply 1 := by cases s <;> cases t <;> rfl
  rw [signs, Int.cast_mul]
  cases t with
  | positive => exact (mul_one _).trans (div_one _).symm
  | negative =>
      change (s.apply 1 : ℚ) * ((-1 : Int) : ℚ) = s.apply 1 / ((-1 : Int) : ℚ)
      push_cast
      ring

/-- A product has enough places: if it has fewer than a mantissa, it is far below the least unit. -/
theorem Format.Holds.mul_fine {m n : Nat} {e f : Int} (holds : double.Holds m e)
    (holds' : double.Holds n f) (positive : 0 < m) (positive' : 0 < n) :
    e + f ≤ max ((m * n).log2 + (e + f) - 52) (-1074) := by
  have filled : m * n ≠ 0 := (Nat.mul_pos positive positive').ne'
  obtain ⟨-, least, full⟩ := holds
  obtain ⟨-, least', full'⟩ := holds'
  change e = -1074 ∨ 2 ^ 52 ≤ m at full
  change f = -1074 ∨ 2 ^ 52 ≤ n at full'
  by_cases bottom : e = -1074 ∧ f = -1074
  · omega
  · have wide : 2 ^ 52 ≤ m * n := by
      obtain full | full : 2 ^ 52 ≤ m ∨ 2 ^ 52 ≤ n := by omega
      · exact full.trans (Nat.le_mul_of_pos_right m positive')
      · exact full.trans (Nat.le_mul_of_pos_left n positive)
    have places : 52 ≤ (m * n).log2 := (Nat.le_log2 filled).mpr wide
    omega

/-- A quotient is taken far enough to fill the mantissa, or down to the least unit. -/
theorem divCore_eq {m n : Nat} (e f : Int) (positive : 0 < m) (positive' : 0 < n) :
    ∃ shift : Nat,
      divCore Format.binary64 m e n f =
        (m * 2 ^ shift / n, e - f - shift, accuracyOfFraction (m * 2 ^ shift % n) n) ∧
      e - f - shift ≤ max ((m * 2 ^ shift / n).log2 + (e - f - shift) - 52) (-1074) := by
  have target : Format.binary64.targetExponent (totalExponent m e - totalExponent n f) =
      max (m.log2 + 1 + e - (n.log2 + 1 + f) - 53) (-1074) := rfl
  refine ⟨(e - f - min (e - f) (max (m.log2 + 1 + e - (n.log2 + 1 + f) - 53) (-1074))).toNat,
    ?_, ?_⟩
  · unfold divCore
    dsimp only
    rw [target, Nat.shiftLeft_eq, Prod.mk.injEq, Prod.mk.injEq]
    exact ⟨rfl, by omega, rfl⟩
  · generalize wide : (e - f - min (e - f)
      (max (m.log2 + 1 + e - (n.log2 + 1 + f) - 53) (-1074))).toNat = shift
    by_cases bottom : e - f - shift ≤ -1074
    · omega
    · have enough : n.log2 + 1 + 52 ≤ m.log2 + shift := by omega
      have size : 2 ^ 52 ≤ m * 2 ^ shift / n := by
        rw [Nat.le_div_iff_mul_le positive']
        calc 2 ^ 52 * n ≤ 2 ^ 52 * 2 ^ (n.log2 + 1) :=
              Nat.mul_le_mul_left _ (Nat.le_of_lt Nat.lt_log2_self)
          _ = 2 ^ (n.log2 + 1 + 52) := by rw [← Nat.pow_add, Nat.add_comm]
          _ ≤ 2 ^ (m.log2 + shift) := Nat.pow_le_pow_right (by decide) enough
          _ = 2 ^ m.log2 * 2 ^ shift := Nat.pow_add ..
          _ ≤ m * 2 ^ shift := Nat.mul_le_mul_right _ (Nat.log2_self_le positive.ne')
      have places : 52 ≤ (m * 2 ^ shift / n).log2 :=
        (Nat.le_log2 (Nat.ne_of_gt (Nat.lt_of_lt_of_le (by decide) size))).mpr size
      omega

theorem rounds_round (sign : Sign) {m : Nat} (positive : 0 < m) (e : Int) :
    Rounds (sign.apply 1 * (m * 2 ^ e))
      (Float.ofModel (.pack (round Format.binary64 sign m e))) := by
  have target : Format.binary64.targetExponent (totalExponent m e) =
      max (m.log2 + 1 + e - 53) (-1074) := rfl
  unfold UnpackedFloat.round
  rw [target]
  unfold decreaseExponent
  dsimp only
  generalize wide : (e - max (m.log2 + 1 + e - 53) (-1074) : Int).toNat = shift
  have places := log2_shiftLeft positive shift
  have fine : e - shift ≤ max ((m <<< shift).log2 + (e - shift) - 52) (-1074) := by omega
  have rounds := rounds_roundWithAccuracy (located_exact (m <<< shift)) fine sign
  have exact : (m : ℚ) * 2 ^ e = ((m <<< shift : Nat) : ℚ) * 2 ^ (e - shift) := by
    rw [Nat.shiftLeft_eq, zpow_sub₀ two_ne_zero, zpow_natCast]
    push_cast
    field_simp
  rwa [exact]

theorem rounds_normalize (n e : Int) (zeroSign : Sign) :
    Rounds (n * 2 ^ e) (Float.ofModel (.pack (normalize Format.binary64 n e zeroSign))) := by
  unfold UnpackedFloat.normalize
  obtain negative | rfl | positive := Int.lt_trichotomy n 0
  · obtain ⟨m, rfl⟩ : ∃ m : Nat, n = -m := ⟨n.natAbs, by omega⟩
    have rounds := rounds_round .negative (m := m) (by omega) e
    have exact : ((-m : Int) : ℚ) * 2 ^ e = Sign.negative.apply 1 * (m * 2 ^ e) := by
      change _ = ((-1 : Int) : ℚ) * _
      push_cast
      ring
    rw [Int.compare_eq_lt.mpr negative, Int.neg_neg, exact]
    exact rounds
  · rw [Int.cast_zero, zero_mul]
    exact rounds_zero zeroSign
  · obtain ⟨m, rfl⟩ := Int.eq_ofNat_of_zero_le positive.le
    have rounds := rounds_round .positive (m := m) (by omega) e
    have exact : ((m : Int) : ℚ) * 2 ^ e = Sign.positive.apply 1 * (m * 2 ^ e) := by
      change _ = ((1 : Int) : ℚ) * _
      push_cast
      ring
    rw [Int.compare_eq_gt.mpr positive, exact]
    exact rounds

/-- A mantissa at a smaller exponent stands for the same number. -/
theorem apply_decreaseExponent (sign : Sign) (m : Nat) {e least : Int} (below : least ≤ e) :
    (sign.apply (decreaseExponent m e least).1 : ℚ) * 2 ^ least = sign.apply m * 2 ^ e := by
  have steps : e = (e - least).toNat + least := by omega
  rw [cast_apply, cast_apply sign m]
  change _ * (((m <<< (e - least).toNat : Nat) : Int) : ℚ) * _ = _
  rw [Nat.shiftLeft_eq]
  conv_rhs => rw [steps, zpow_add₀ two_ne_zero, zpow_natCast]
  push_cast
  ring

section Operations

variable {x z : Float} (finiteX : x.isFinite = true) (finiteZ : z.isFinite = true)

include finiteX finiteZ

theorem rounds_mul : Rounds (value x * value z) (x * z) := by
  change Rounds _ (Float.ofModel (.pack (UnpackedFloat.mul Format.binary64 x.toModel.unpack
    z.toModel.unpack)))
  obtain ⟨s, xZero, zero⟩ | ⟨s, m, e, positive, xFinite, holds, -, product⟩ :=
      unpack_of_isFinite finiteX <;>
    obtain ⟨t, zZero, zero'⟩ | ⟨t, n, f, positive', zFinite, holds', -, product'⟩ :=
      unpack_of_isFinite finiteZ
  · rw [xZero, zZero, zero, zero_mul]
    exact rounds_zero _
  · rw [xZero, zFinite, zero, zero_mul]
    exact rounds_zero _
  · rw [xFinite, zZero, zero', mul_zero]
    exact rounds_zero _
  · rw [xFinite, zFinite, product, product']
    have fine := holds.mul_fine holds' positive positive'
    have rounds := rounds_roundWithAccuracy (located_exact (m * n)) fine (s * t)
    have exact : (s.apply m : ℚ) * 2 ^ e * (t.apply n * 2 ^ f) =
        ((s * t).apply 1 : Int) * (((m * n : Nat) : ℚ) * 2 ^ (e + f)) := by
      rw [cast_apply s, cast_apply t, apply_mul, zpow_add₀ two_ne_zero]
      push_cast
      ring
    rwa [exact]

theorem rounds_div (nonzero : value z ≠ 0) : Rounds (value x / value z) (x / z) := by
  change Rounds _ (Float.ofModel (.pack (UnpackedFloat.div Format.binary64 x.toModel.unpack
    z.toModel.unpack)))
  obtain ⟨t, -, zero⟩ | ⟨t, n, f, positive', zFinite, -, -, quotient'⟩ :=
    unpack_of_isFinite finiteZ
  · exact absurd zero nonzero
  obtain ⟨s, xZero, zero⟩ | ⟨s, m, e, positive, xFinite, -, -, quotient⟩ :=
    unpack_of_isFinite finiteX
  · rw [xZero, zFinite, zero, zero_div]
    exact rounds_zero _
  · rw [xFinite, zFinite, quotient, quotient']
    obtain ⟨shift, core, fine⟩ := divCore_eq e f positive positive'
    have located := located_quotient (m * 2 ^ shift) positive'
    have rounds := rounds_roundWithAccuracy located fine (s / t)
    have scale : (0 : ℚ) < 2 ^ shift := by positivity
    have exact : (s.apply m : ℚ) * 2 ^ e / (t.apply n * 2 ^ f) =
        (s / t).apply 1 * (((m * 2 ^ shift : Nat) / n : ℚ) * 2 ^ (e - f - shift)) := by
      rw [cast_apply s, cast_apply t, apply_div, zpow_sub₀ two_ne_zero, zpow_sub₀ two_ne_zero,
        zpow_natCast]
      push_cast
      field_simp
    rw [exact]
    unfold UnpackedFloat.div
    dsimp only
    rw [core]
    exact rounds

theorem rounds_sub : Rounds (value x - value z) (x - z) := by
  change Rounds _ (Float.ofModel (.pack (UnpackedFloat.sub Format.binary64 x.toModel.unpack
    z.toModel.unpack)))
  obtain ⟨s, xZero, zero⟩ | ⟨s, m, e, positive, xFinite, holds, most, minuend⟩ :=
      unpack_of_isFinite finiteX <;>
    obtain ⟨t, zZero, zero'⟩ | ⟨t, n, f, positive', zFinite, holds', most', subtrahend⟩ :=
      unpack_of_isFinite finiteZ
  · rw [xZero, zZero, zero, zero', sub_zero]
    unfold UnpackedFloat.sub
    dsimp only
    split <;> exact rounds_zero _
  · rw [xZero, zFinite, zero, subtrahend, zero_sub]
    obtain ⟨finite, value⟩ := value_pack (-t) positive' holds' most'
    have rounds := Rounds.self finite
    rw [value] at rounds
    rwa [apply_neg, Int.cast_neg, neg_mul] at rounds
  · rw [xFinite, zZero, zero', minuend, sub_zero]
    obtain ⟨finite, value⟩ := value_pack s positive holds most
    have rounds := Rounds.self finite
    rwa [value] at rounds
  · rw [xFinite, zFinite, minuend, subtrahend,
      ← apply_decreaseExponent s m (Int.min_le_left e f),
      ← apply_decreaseExponent t n (Int.min_le_right e f), ← sub_mul, ← Int.cast_sub]
    exact rounds_normalize _ _ _

end Operations

/-! Differences of numbers have the right sign, and only that of equal numbers is zero. -/

section Difference

variable {x z : Float} (finiteX : x.isFinite = true) (finiteZ : z.isFinite = true)
  (finite : (x - z).isFinite = true)

include finiteX finiteZ finite

theorem value_sub_nonneg (above : value z ≤ value x) : 0 ≤ value (x - z) :=
  (rounds_sub finiteX finiteZ).le_value representable_zero (sub_nonneg.mpr above) finite

theorem value_sub_nonpos (below : value x ≤ value z) : value (x - z) ≤ 0 :=
  (rounds_sub finiteX finiteZ).value_le representable_zero (sub_nonpos.mpr below) finite

theorem value_sub_eq_zero_iff : value (x - z) = 0 ↔ value x = value z := by
  have rounds := rounds_sub finiteX finiteZ
  constructor
  · intro zero
    by_contra apart
    obtain ⟨m, unitsX⟩ := (representable_value finiteX).units
    obtain ⟨n, unitsZ⟩ := (representable_value finiteZ).units
    have unit : (0 : ℚ) < 2 ^ (-1074 : Int) := by positivity
    have least : Representable (2 ^ (-1074 : Int)) :=
      ⟨1, -1074, by decide, by decide, by decide, by rw [Int.cast_one, one_mul]⟩
    have some : m - n ≠ 0 := by
      intro none
      rw [unitsX, unitsZ, sub_eq_zero.mp none] at apart
      exact apart rfl
    have reach : (2 : ℚ) ^ (-1074 : Int) ≤ |value x - value z| := by
      rw [unitsX, unitsZ, ← sub_mul, abs_mul, abs_of_pos unit, ← Int.cast_sub]
      exact le_mul_of_one_le_left unit.le (by exact_mod_cast Int.one_le_abs some)
    have above := rounds.le_abs_value least reach finite
    rw [zero, abs_zero] at above
    exact unit.not_ge above
  · intro same
    rw [same, sub_self] at rounds
    exact (rounds.exact representable_zero).2

end Difference

section Finite

variable {x z : Float}

theorem isFinite_of_operation {operation : UnpackedFloat → UnpackedFloat → UnpackedFloat}
    (operands : ∀ u v, (operation u v).isFinite = true → u.isFinite = true ∧ v.isFinite = true)
    (finite : (Float.ofModel (.pack
      (operation x.toModel.unpack z.toModel.unpack))).isFinite = true) :
    x.isFinite = true ∧ z.isFinite = true :=
  operands _ _ (isFinite_of_pack finite)

theorem isFinite_of_mul (finite : (x * z).isFinite = true) :
    x.isFinite = true ∧ z.isFinite = true := by
  refine isFinite_of_operation (fun u v product => ?_) finite
  cases u <;> cases v <;> first | exact ⟨rfl, rfl⟩ | cases product

theorem isFinite_of_add (finite : (x + z).isFinite = true) :
    x.isFinite = true ∧ z.isFinite = true := by
  refine isFinite_of_operation (fun u v sum => ?_) finite
  cases u with
  | infinity s =>
      cases v with
      | infinity t => cases s <;> cases t <;> cases sum
      | _ => cases sum
  | notANumber => cases sum
  | _ => cases v <;> first | exact ⟨rfl, rfl⟩ | cases sum

theorem isFinite_of_sub (finite : (x - z).isFinite = true) :
    x.isFinite = true ∧ z.isFinite = true := by
  refine isFinite_of_operation (fun u v difference => ?_) finite
  cases u with
  | infinity s =>
      cases v with
      | infinity t => cases s <;> cases t <;> cases difference
      | _ => cases difference
  | notANumber => cases difference
  | _ => cases v <;> first | exact ⟨rfl, rfl⟩ | cases difference

end Finite

section Signs

variable {x : Float} {negative : Bool} {mantissa : Nat} {exponent : Int}
  (same : datum x = .finite negative mantissa exponent)

include same

theorem datum_neg : datum (-x) = .finite (!negative) mantissa exponent := by
  change datum (Float.ofModel (.pack x.toModel.unpack.neg)) = _
  obtain ⟨sign, zero, rfl, rfl, rfl⟩ | ⟨sign, positive, unpacked, rfl⟩ := unpack_of_datum same
  · rw [zero]
    refine (datum_pack_zero (-sign)).trans ?_
    cases sign <;> rfl
  · rw [unpacked]
    refine (datum_pack (-sign) positive (holds_of_datum same).1 (exponent_le same)).trans ?_
    cases sign <;> rfl

theorem datum_abs : datum x.abs = .finite false mantissa exponent := by
  change datum (Float.ofModel (.pack x.toModel.unpack.abs)) = _
  obtain ⟨sign, zero, rfl, rfl, rfl⟩ | ⟨sign, positive, unpacked, rfl⟩ := unpack_of_datum same
  · rw [zero]
    exact datum_pack_zero .positive
  · rw [unpacked]
    exact datum_pack .positive positive (holds_of_datum same).1 (exponent_le same)

end Signs

theorem value_neg {x : Float} (finite : x.isFinite = true) :
    (-x).isFinite = true ∧ value (-x) = -value x := by
  obtain ⟨negative, mantissa, exponent, same⟩ := isFinite_iff_datum.mp finite
  have opposite := datum_neg same
  refine ⟨isFinite_iff_datum.mpr ⟨_, _, _, opposite⟩, ?_⟩
  rw [value_of_datum opposite, value_of_datum same, ← neg_mul]
  unfold signed
  cases negative <;> simp

theorem value_abs {x : Float} (finite : x.isFinite = true) :
    x.abs.isFinite = true ∧ value x.abs = |value x| := by
  obtain ⟨negative, mantissa, exponent, same⟩ := isFinite_iff_datum.mp finite
  have unsigned := datum_abs same
  refine ⟨isFinite_iff_datum.mpr ⟨_, _, _, unsigned⟩, ?_⟩
  rw [abs_value_of_datum same]
  exact value_of_datum unsigned

/-- At a greater exponent every number is greater. -/
theorem Format.Holds.mul_lt_mul {m n : Nat} {e f : Int} (holds : double.Holds m e)
    (holds' : double.Holds n f) (below : e < f) : (m : ℚ) * 2 ^ e < n * 2 ^ f := by
  have least : -1074 ≤ e := holds.least_le
  calc (m : ℚ) * 2 ^ e < 2 ^ (e + 53) := (holds.lt_iff (by omega)).mpr (le_refl _)
    _ ≤ n * 2 ^ f := not_lt.mp (mt (holds'.lt_iff (by omega)).mp (by omega))

theorem compare_mul {m n : Nat} {e f : Int} (holds : double.Holds m e) (holds' : double.Holds n f) :
    (compare e f).then (compare m n) = compare ((m : ℚ) * 2 ^ e) (n * 2 ^ f) := by
  obtain below | rfl | above := lt_trichotomy e f
  · rw [compare_lt_iff_lt.mpr below, compare_lt_iff_lt.mpr (holds.mul_lt_mul holds' below)]
    rfl
  · have scale : (0 : ℚ) < 2 ^ e := by positivity
    rw [compare_eq_iff_eq.mpr rfl]
    change compare m n = _
    obtain less | rfl | more := lt_trichotomy m n
    · rw [compare_lt_iff_lt.mpr less, compare_lt_iff_lt.mpr]
      exact mul_lt_mul_of_pos_right (by exact_mod_cast less) scale
    · rw [compare_eq_iff_eq.mpr rfl, compare_eq_iff_eq.mpr rfl]
    · rw [compare_gt_iff_gt.mpr more, compare_gt_iff_gt.mpr]
      exact mul_lt_mul_of_pos_right (by exact_mod_cast more) scale
  · rw [compare_gt_iff_gt.mpr above, compare_gt_iff_gt.mpr (holds'.mul_lt_mul holds above)]
    rfl

theorem compare_neg (a b : ℚ) : compare (-a) (-b) = (compare a b).swap := by
  obtain less | rfl | more := lt_trichotomy a b
  · rw [compare_lt_iff_lt.mpr less, compare_gt_iff_gt.mpr (neg_lt_neg less)]
    rfl
  · rw [compare_eq_iff_eq.mpr rfl, compare_eq_iff_eq.mpr rfl]
    rfl
  · rw [compare_gt_iff_gt.mpr more, compare_lt_iff_lt.mpr (neg_lt_neg more)]
    rfl

theorem compare_unpack {x z : Float} (finiteX : x.isFinite = true) (finiteZ : z.isFinite = true) :
    x.toModel.unpack.compare z.toModel.unpack = some (compare (value x) (value z)) := by
  have above {m : Nat} {e : Int} (positive : 0 < m) : (0 : ℚ) < m * 2 ^ e :=
    mul_pos (by exact_mod_cast positive) (by positivity)
  have below {m : Nat} {e : Int} (positive : 0 < m) : ((-m : Int) : ℚ) * 2 ^ e < 0 := by
    push_cast
    linarith [above (e := e) positive]
  obtain ⟨s, xZero, zero⟩ | ⟨s, m, e, positive, xFinite, holds, -, exact⟩ :=
      unpack_of_isFinite finiteX <;>
    obtain ⟨t, zZero, zero'⟩ | ⟨t, n, f, positive', zFinite, holds', -, exact'⟩ :=
      unpack_of_isFinite finiteZ
  · rw [xZero, zZero, zero, zero', compare_eq_iff_eq.mpr rfl]
    rfl
  · rw [xZero, zFinite, zero, exact']
    cases t with
    | positive => exact congrArg some (compare_lt_iff_lt.mpr (above positive')).symm
    | negative => exact congrArg some (compare_gt_iff_gt.mpr (below positive')).symm
  · rw [xFinite, zZero, zero', exact]
    cases s with
    | positive => exact congrArg some (compare_gt_iff_gt.mpr (above positive)).symm
    | negative => exact congrArg some (compare_lt_iff_lt.mpr (below positive)).symm
  · have order := compare_mul holds holds'
    rw [xFinite, zFinite, exact, exact']
    cases s <;> cases t
    · refine congrArg some ((congrArg Ordering.swap order).trans ?_)
      change (compare _ _).swap = compare (((-m : Int) : ℚ) * 2 ^ e) (((-n : Int) : ℚ) * 2 ^ f)
      push_cast
      rw [neg_mul, neg_mul, compare_neg]
    · exact congrArg some (compare_lt_iff_lt.mpr ((below positive).trans (above positive'))).symm
    · exact congrArg some (compare_gt_iff_gt.mpr ((below positive').trans (above positive))).symm
    · exact congrArg some order

theorem le_iff {x z : Float} (finiteX : x.isFinite = true) (finiteZ : z.isFinite = true) :
    x ≤ z ↔ value x ≤ value z := by
  change (decide ((x.toModel.unpack.compare z.toModel.unpack).any (·.isLE) = true)) = true ↔ _
  rw [decide_eq_true_eq, compare_unpack finiteX finiteZ]
  exact Ordering.isLE_iff_ne_gt.trans compare_le_iff_le

theorem beq_iff {x z : Float} (finiteX : x.isFinite = true) (finiteZ : z.isFinite = true) :
    (x == z) = true ↔ value x = value z := by
  change (x.toModel.unpack.compare z.toModel.unpack == some .eq) = true ↔ _
  rw [compare_unpack finiteX finiteZ, beq_iff_eq, Option.some_inj, compare_eq_iff_eq]

theorem lt_iff {x z : Float} (finiteX : x.isFinite = true) (finiteZ : z.isFinite = true) :
    x < z ↔ value x < value z := by
  change (decide ((x.toModel.unpack.compare z.toModel.unpack == some .lt) = true)) = true ↔ _
  rw [decide_eq_true_eq, compare_unpack finiteX finiteZ, beq_iff_eq, Option.some_inj,
    compare_lt_iff_lt]

theorem isNaN_of_isFinite {x : Float} (finite : x.isFinite = true) : x.isNaN = false := by
  change x.toModel.unpack.isFinite = true at finite
  change x.toModel.unpack.isNaN = false
  cases unpacked : x.toModel.unpack with
  | notANumber => rw [unpacked] at finite; cases finite
  | infinity | zero | finite => rfl

/-- An integer other than zero shows its sign. -/
theorem eq_of_signed_eq {negative negative' : Bool} {magnitude : Nat}
    (same : signed negative magnitude = signed negative' magnitude)
    (filled : signed negative magnitude ≠ 0) : negative = negative' := by
  unfold signed at same filled
  by_contra differs
  cases negative with
  | false =>
      rw [Bool.eq_true_of_not_eq_false (Ne.symm differs)] at same
      simp only [Bool.false_eq_true, if_false, if_true] at same filled
      omega
  | true =>
      rw [Bool.eq_false_of_not_eq_true (Ne.symm differs)] at same
      simp only [Bool.false_eq_true, if_false, if_true] at same filled
      omega

/-- A number other than zero is only one word. -/
theorem eq_of_value_eq {x z : Float} (finiteX : x.isFinite = true) (finiteZ : z.isFinite = true)
    (same : value x = value z) (nonzero : value x ≠ 0) : x = z := by
  obtain ⟨negative, m, e, datumX⟩ := isFinite_iff_datum.mp finiteX
  obtain ⟨negative', n, f, datumZ⟩ := isFinite_iff_datum.mp finiteZ
  obtain ⟨holds, -, wordX⟩ := holds_of_datum datumX
  obtain ⟨holds', -, wordZ⟩ := holds_of_datum datumZ
  have magnitude : (m : ℚ) * 2 ^ e = n * 2 ^ f := by
    rw [← abs_value_of_datum datumX, ← abs_value_of_datum datumZ, same]
  have order := compare_mul holds holds'
  rw [compare_eq_iff_eq.mpr magnitude, Ordering.then_eq_eq, compare_eq_iff_eq,
    compare_eq_iff_eq] at order
  obtain ⟨rfl, rfl⟩ := order
  have signs : negative = negative' := by
    rw [value_of_datum datumX] at same nonzero
    rw [value_of_datum datumZ] at same
    have unit : (2 : ℚ) ^ e ≠ 0 := by positivity
    have integers := Int.cast_injective (mul_right_cancel₀ unit same)
    exact eq_of_signed_eq integers fun zero => nonzero (by rw [zero]; simp)
  rw [← wordX, ← wordZ, signs]

/-- Of the finite numbers only the zeros equal zero. -/
theorem beq_zero_iff {x : Float} {negative : Bool} {mantissa : Nat} {exponent : Int}
    (same : datum x = .finite negative mantissa exponent) : (x == 0) = true ↔ mantissa = 0 := by
  have unit : (2 : ℚ) ^ exponent ≠ 0 := by positivity
  rw [beq_iff (isFinite_iff_datum.mpr ⟨_, _, _, same⟩) value_zero.1, value_zero.2, ← abs_eq_zero,
    abs_value_of_datum same, mul_eq_zero, or_iff_left unit, Nat.cast_eq_zero]

end Spreadsheet.Binary
