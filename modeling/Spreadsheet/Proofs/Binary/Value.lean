import Spreadsheet.Binary.Integral
import Spreadsheet.Proofs.Binary.Exact

namespace Spreadsheet.Binary

open Float.Model Float.Model.UnpackedFloat

def isNegative : Sign → Bool
  | .negative => true
  | .positive => false

/-- What an unpacked number is exactly. -/
def ofUnpacked : UnpackedFloat → Datum
  | .finite sign mantissa exponent _ => .finite (isNegative sign) mantissa exponent
  | .zero sign => .finite (isNegative sign) 0 double.leastExponent
  | .infinity sign => .infinite (isNegative sign)
  | .notANumber => .notANumber

theorem isNegative_ofBitVec (bit : BitVec 1) :
    isNegative (Sign.ofBitVec bit) = decide (bit.toNat = 1) := by
  revert bit
  decide

theorem isNegative_unpackSign (word : BitVec Format.binary64.numBits) :
    isNegative (Sign.ofBitVec (unpackSign word)) = decide (double.signWeight ≤ word.toNat) := by
  have top : (unpackSign word).toNat = word.toNat / twoTo 63 % 2 := by
    unfold unpackSign
    rw [BitVec.toNat_cast, BitVec.extractLsb_toNat, Nat.shiftRight_eq_div_pow]
    rfl
  have bounded : word.toNat < twoTo 64 := word.isLt
  rw [isNegative_ofBitVec, top, decide_eq_decide]
  change _ ↔ 9223372036854775808 ≤ word.toNat
  change word.toNat < 18446744073709551616 at bounded
  change word.toNat / 9223372036854775808 % 2 = 1 ↔ _
  omega

theorem toNat_implicit (fraction : BitVec 52) :
    (1#1 ++ fraction).toNat = twoTo 52 + fraction.toNat := by
  rw [BitVec.toNat_append]
  exact (Nat.two_pow_add_eq_or_of_lt fraction.isLt 1).symm

theorem decode_eq (word : BitVec Format.binary64.numBits) :
    double.decode word.toNat = ofUnpacked (UnpackedFloat.unpack Format.binary64 word) := by
  have field := toNat_unpackExponent Format.binary64 word
  have fraction := toNat_unpackMantissa Format.binary64 word
  change _ = word.toNat / twoTo double.fractionBits % twoTo double.exponentBits at field
  change _ = word.toNat % twoTo double.fractionBits at fraction
  have largest : (unpackExponent word).toNat = twoTo double.exponentBits - 1 ↔
      unpackExponent word = -1#_ := by
    rw [← BitVec.toNat_inj]
    rfl
  have least : (unpackExponent word).toNat = 0 ↔ unpackExponent word = 0#_ := by
    rw [← BitVec.toNat_inj]
    rfl
  have none : (unpackMantissa word).toNat = 0 ↔ unpackMantissa word = 0#_ := by
    rw [← BitVec.toNat_inj]
    rfl
  unfold Format.decode UnpackedFloat.unpack
  dsimp only
  rw [← field, ← fraction, ← isNegative_unpackSign]
  simp only [largest, least, none]
  split
  next => split <;> rfl
  next =>
    split
    next small =>
      split
      next zero =>
        rw [zero]
        rfl
      next => rw [small]; rfl
    next =>
      change _ = Datum.finite _ (1#1 ++ unpackMantissa word).toNat
        ((unpackExponent word).toNat - (1023 + 52) : Int)
      rw [toNat_implicit, Datum.finite.injEq]
      refine ⟨rfl, rfl, ?_⟩
      change (2 - 1024 - 52 + (unpackExponent word).toNat - 1 : Int) = _
      omega

theorem datum_eq (x : Float) : datum x = ofUnpacked x.toModel.unpack :=
  decode_eq x.toModel.toBits.toBitVec

theorem toNat_packComponents (sign : Sign) (field : BitVec 11) (fraction : BitVec 52) :
    (packComponents Format.binary64 sign field fraction).toNat =
      double.withSign (isNegative sign) (field.toNat * twoTo 52 + fraction.toNat) := by
  have low : fraction.toNat < 2 ^ 52 := fraction.isLt
  have middle : field.toNat < 2 ^ 11 := field.isLt
  unfold packComponents
  rw [BitVec.toNat_append, BitVec.toNat_append, ← Nat.shiftLeft_add_eq_or_of_lt middle,
    ← Nat.shiftLeft_add_eq_or_of_lt low, Nat.shiftLeft_eq, Nat.shiftLeft_eq]
  cases sign with
  | positive =>
      change (0 * 2 ^ 11 + field.toNat) * 2 ^ 52 + _ = _
      rw [Nat.zero_mul, Nat.zero_add]
      rfl
  | negative =>
      change (1 * 2 ^ 11 + field.toNat) * 2 ^ 52 + _ =
        2 ^ (52 + 11) + (field.toNat * 2 ^ 52 + fraction.toNat)
      ring

theorem biased_eq (exponent : Int) :
    (exponent + (Format.binary64.exponentBias : Int) +
      (Format.binary64.mantissaBitsWithoutImplicit : Int)).toNat = (exponent + 1075).toNat := by
  change (exponent + 1023 + 52).toNat = _
  omega

theorem Format.Holds.counted_lt {mantissa : Nat} {exponent : Int}
    (holds : double.Holds mantissa exponent) (bounded : exponent ≤ 971) :
    (exponent - double.leastExponent).toNat * twoTo double.fractionBits + mantissa <
      double.infinity := by
  obtain ⟨fits, least, full⟩ := holds
  change mantissa < 9007199254740992 at fits
  change -1074 ≤ exponent at least
  change (exponent - -1074).toNat * 4503599627370496 + mantissa < 2047 * 4503599627370496
  omega

/-- Only at the least exponent a mantissa is not full. -/
theorem Format.Holds.filled {mantissa : Nat} {exponent : Int}
    (holds : double.Holds mantissa exponent) (above : -1074 < exponent) : 2 ^ 52 ≤ mantissa := by
  rcases holds.full with bottom | full
  · change exponent = -1074 at bottom
    omega
  · exact full

/-- A mantissa has 53 places, apart from those at the least exponent. -/
theorem Format.Holds.lt_iff {mantissa : Nat} {exponent k : Int}
    (holds : double.Holds mantissa exponent) (least : -1021 ≤ k) :
    (mantissa : ℚ) * 2 ^ exponent < 2 ^ k ↔ exponent + 53 ≤ k := by
  have unit : (0 : ℚ) < 2 ^ exponent := by positivity
  constructor
  · intro small
    by_contra above
    have filled : (2 : ℚ) ^ (52 : Int) ≤ mantissa := by exact_mod_cast holds.filled (by omega)
    refine small.not_ge ?_
    calc (2 : ℚ) ^ k ≤ 2 ^ (52 + exponent) := zpow_le_zpow_right₀ one_le_two (by omega)
      _ = 2 ^ (52 : Int) * 2 ^ exponent := zpow_add₀ two_ne_zero ..
      _ ≤ mantissa * 2 ^ exponent := mul_le_mul_of_nonneg_right filled unit.le
  · intro below
    have fits : (mantissa : ℚ) < 2 ^ (53 : Int) := by exact_mod_cast holds.fits
    calc (mantissa : ℚ) * 2 ^ exponent < 2 ^ (53 : Int) * 2 ^ exponent :=
          mul_lt_mul_of_pos_right fits unit
      _ = 2 ^ (exponent + 53) := by rw [add_comm, zpow_add₀ two_ne_zero]
      _ ≤ 2 ^ k := zpow_le_zpow_right₀ one_le_two below

section Pack

variable (sign : Sign) {mantissa : Nat} {exponent : Int} (positive : 0 < mantissa)
  (holds : double.Holds mantissa exponent)

include holds

theorem toNat_pack (bounded : exponent ≤ 971) :
    (UnpackedFloat.pack Format.binary64 (.finite sign mantissa exponent positive)).toNat =
      double.withSign (isNegative sign)
        ((exponent - double.leastExponent).toNat * twoTo double.fractionBits + mantissa) := by
  obtain ⟨fits, least, full⟩ := holds
  change mantissa < 9007199254740992 at fits
  change -1074 ≤ exponent at least
  change exponent = -1074 ∨ 4503599627370496 ≤ mantissa at full
  change _ = double.withSign (isNegative sign) ((exponent - -1074).toNat * twoTo 52 + mantissa)
  have unit : twoTo 52 = 4503599627370496 := rfl
  unfold UnpackedFloat.pack
  dsimp only
  rw [biased_eq, if_neg (by change ¬2048 ≤ (exponent + 1075).toNat + 1; omega)]
  by_cases normal : 4503599627370496 ≤ mantissa
  · have places : mantissa.log2 = 52 := (Nat.log2_eq_iff (Nat.ne_of_gt positive)).mpr ⟨normal, fits⟩
    have field :
        (BitVec.ofNat 11 (exponent + 1075).toNat).toNat = (exponent - -1074).toNat + 1 := by
      rw [BitVec.toNat_ofNat]
      omega
    have fraction : (BitVec.ofNat 52 mantissa).toNat + 4503599627370496 = mantissa := by
      rw [BitVec.toNat_ofNat]
      omega
    rw [if_pos (by rw [places]; rfl), toNat_packComponents, field]
    refine congrArg (double.withSign (isNegative sign)) ?_
    rw [unit]
    omega
  · have places : mantissa.log2 < 52 := (Nat.log2_lt (Nat.ne_of_gt positive)).mpr (not_le.mp normal)
    have steps : (exponent - -1074).toNat = 0 := by omega
    have fraction : (BitVec.ofNat 52 mantissa).toNat = mantissa := by
      rw [BitVec.toNat_ofNat]
      omega
    rw [if_neg (by change ¬mantissa.log2 + 1 = 53; omega), toNat_packComponents, fraction, steps]
    rfl

theorem datum_pack (bounded : exponent ≤ 971) :
    datum (Float.ofModel (.pack (.finite sign mantissa exponent positive))) =
      .finite (isNegative sign) mantissa exponent := by
  have word : (Float.ofModel (.pack (.finite sign mantissa exponent positive))).toBits.toNat = _ :=
    toNat_pack sign positive holds bounded
  unfold datum
  rw [word]
  exact Format.decode_of_holds holds (holds.counted_lt bounded) _

end Pack

theorem isFinite_pack_infinite (sign : Sign) {mantissa : Nat} {exponent : Int}
    (positive : 0 < mantissa) (unbounded : 971 < exponent) :
    (Float.ofModel (.pack (.finite sign mantissa exponent positive))).isFinite = false := by
  change (UnpackedFloat.unpack Format.binary64
    (UnpackedFloat.pack Format.binary64 (.finite sign mantissa exponent positive))).isFinite = false
  have large : 2 ^ 11 ≤ (exponent + 1075).toNat + 1 := by omega
  unfold UnpackedFloat.pack
  dsimp only
  rw [biased_eq, if_pos large, isFinite_unpack]
  unfold packedInfinity
  rw [unpackExponent_packComponents, beq_self_eq_true]
  rfl

theorem isFinite_of_pack {u : UnpackedFloat}
    (finite : (Float.ofModel (.pack u)).isFinite = true) : u.isFinite = true := by
  have infinite (sign : Sign) : (Float.ofModel (.pack (.infinity sign))).isFinite = false := by
    cases sign <;> decide
  have none : (Float.ofModel (.pack .notANumber)).isFinite = false := by decide
  cases u with
  | notANumber => exact none.symm.trans finite
  | infinity sign => exact (infinite sign).symm.trans finite
  | zero => rfl
  | finite => rfl

theorem datum_pack_zero (sign : Sign) :
    datum (Float.ofModel (.pack (.zero sign))) =
      .finite (isNegative sign) 0 double.leastExponent := by
  cases sign <;> decide

/-- The number that a finite one stands for; the others stand for none and count as zero. -/
def value (x : Float) : ℚ :=
  match datum x with
  | .finite negative mantissa exponent => signed negative mantissa * 2 ^ exponent
  | _ => 0

theorem value_of_datum {x : Float} {negative : Bool} {mantissa : Nat} {exponent : Int}
    (same : datum x = .finite negative mantissa exponent) :
    value x = signed negative mantissa * 2 ^ exponent := by
  unfold value
  rw [same]

theorem abs_value_of_datum {x : Float} {negative : Bool} {mantissa : Nat} {exponent : Int}
    (same : datum x = .finite negative mantissa exponent) :
    |value x| = mantissa * 2 ^ exponent := by
  have scale : (0 : ℚ) < 2 ^ exponent := by positivity
  rw [value_of_datum same, abs_mul, abs_of_pos scale]
  unfold signed
  cases negative <;> simp

theorem value_zero : (0 : Float).isFinite = true ∧ value 0 = 0 := by
  have same : datum 0 = .finite false 0 (-1074) := by decide
  refine ⟨isFinite_iff_datum.mpr ⟨_, _, _, same⟩, ?_⟩
  rw [value_of_datum same]
  exact zero_mul _

theorem value_pos_of_datum {x : Float} {mantissa : Nat} {exponent : Int}
    (same : datum x = .finite false mantissa exponent) (filled : 0 < mantissa) : 0 < value x := by
  rw [value_of_datum same]
  refine mul_pos ?_ (by positivity)
  change 0 < ((mantissa : Int) : ℚ)
  exact_mod_cast filled

theorem value_neg_of_datum {x : Float} {mantissa : Nat} {exponent : Int}
    (same : datum x = .finite true mantissa exponent) (filled : 0 < mantissa) : value x < 0 := by
  rw [value_of_datum same]
  refine mul_neg_of_neg_of_pos ?_ (by positivity)
  change ((-mantissa : Int) : ℚ) < 0
  rw [Int.cast_neg, neg_lt_zero]
  exact_mod_cast filled

theorem signed_isNegative (sign : Sign) (mantissa : Nat) :
    signed (isNegative sign) mantissa = sign.apply mantissa := by
  cases sign <;> rfl

theorem unpack_of_datum {x : Float} {negative : Bool} {mantissa : Nat} {exponent : Int}
    (same : datum x = .finite negative mantissa exponent) :
    (∃ sign, x.toModel.unpack = .zero sign ∧ isNegative sign = negative ∧ mantissa = 0 ∧
      exponent = double.leastExponent) ∨
    ∃ sign positive, x.toModel.unpack = .finite sign mantissa exponent positive ∧
      isNegative sign = negative := by
  rw [datum_eq] at same
  cases unpacked : x.toModel.unpack with
  | infinity sign => rw [unpacked] at same; cases same
  | notANumber => rw [unpacked] at same; cases same
  | zero sign =>
      rw [unpacked] at same
      cases same
      exact .inl ⟨sign, rfl, rfl, rfl, rfl⟩
  | finite sign m e positive =>
      rw [unpacked] at same
      cases same
      exact .inr ⟨sign, positive, rfl, rfl⟩

theorem unpack_of_isFinite {x : Float} (finite : x.isFinite = true) :
    (∃ sign, x.toModel.unpack = .zero sign ∧ value x = 0) ∨
      ∃ sign mantissa exponent positive,
        x.toModel.unpack = .finite sign mantissa exponent positive ∧
          double.Holds mantissa exponent ∧ exponent ≤ 971 ∧
          value x = sign.apply mantissa * 2 ^ exponent := by
  obtain ⟨negative, mantissa, exponent, same⟩ := isFinite_iff_datum.mp finite
  have exact := value_of_datum same
  obtain ⟨sign, zero, -, rfl, -⟩ | ⟨sign, positive, unpacked, rfl⟩ := unpack_of_datum same
  · refine .inl ⟨sign, zero, ?_⟩
    rw [exact]
    cases negative <;> simp [signed]
  · exact .inr ⟨sign, mantissa, exponent, positive, unpacked, (holds_of_datum same).1,
      exponent_le same, by rw [exact, signed_isNegative]⟩

theorem value_pack (sign : Sign) {mantissa : Nat} {exponent : Int} (positive : 0 < mantissa)
    (holds : double.Holds mantissa exponent) (bounded : exponent ≤ 971) :
    (Float.ofModel (.pack (.finite sign mantissa exponent positive))).isFinite = true ∧
      value (Float.ofModel (.pack (.finite sign mantissa exponent positive))) =
        sign.apply mantissa * 2 ^ exponent := by
  have same := datum_pack sign positive holds bounded
  refine ⟨isFinite_iff_datum.mpr ⟨_, _, _, same⟩, ?_⟩
  rw [value_of_datum same, signed_isNegative]

theorem value_pack_zero (sign : Sign) :
    (Float.ofModel (.pack (.zero sign))).isFinite = true ∧
      value (Float.ofModel (.pack (.zero sign))) = 0 := by
  have same := datum_pack_zero sign
  refine ⟨isFinite_iff_datum.mpr ⟨_, _, _, same⟩, ?_⟩
  rw [value_of_datum same]
  cases sign <;> simp [signed, isNegative]

end Spreadsheet.Binary
