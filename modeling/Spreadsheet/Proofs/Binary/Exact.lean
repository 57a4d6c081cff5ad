import Spreadsheet.Proofs.Binary.Nearest

/-! Words of finite numbers. Ratios that lie nearest to a number are rounded to its word. -/

namespace Spreadsheet.Binary

namespace Format

theorem field_of_lt {format : Format} {word : Nat} (unsigned : word < format.signWeight) :
    word / twoTo format.fractionBits % twoTo format.exponentBits =
      word / twoTo format.fractionBits := by
  refine Nat.mod_eq_of_lt (Nat.div_lt_of_lt_mul ?_)
  have weight : format.signWeight = twoTo format.fractionBits * twoTo format.exponentBits :=
    Nat.pow_add ..
  rwa [← weight]

theorem lt_infinity {format : Format} {word : Nat} (unsigned : word < format.signWeight)
    (finite : word / twoTo format.fractionBits ≠ twoTo format.exponentBits - 1) :
    word < format.infinity := by
  have below := Nat.mod_lt (word / twoTo format.fractionBits) (twoTo_pos format.exponentBits)
  rw [field_of_lt unsigned] at below
  exact (Nat.div_lt_iff_lt_mul (twoTo_pos _)).mp (by omega)

/-- A finite word without a sign counts the fractions of all exponents below its own. -/
theorem eq_of_decode {format : Format} {word mantissa : Nat} {exponent : Int}
    (decoded : format.decode word = .finite false mantissa exponent) :
    format.Holds mantissa exponent ∧ word < format.infinity ∧
      word = (exponent - format.leastExponent).toNat * twoTo format.fractionBits + mantissa := by
  have double := twoTo_succ format.fractionBits
  have parts := Nat.div_add_mod' word (twoTo format.fractionBits)
  have fraction := Nat.mod_lt word (twoTo_pos format.fractionBits)
  unfold decode at decoded
  dsimp only at decoded
  split at decoded
  next => split at decoded <;> cases decoded
  next finite =>
    split at decoded
    next zero =>
      simp only [Datum.finite.injEq, decide_eq_false_iff_not, Nat.not_le] at decoded
      obtain ⟨unsigned, rfl, rfl⟩ := decoded
      rw [field_of_lt unsigned] at finite zero
      refine ⟨⟨by omega, Int.le_refl _, .inl rfl⟩, lt_infinity unsigned finite, ?_⟩
      have none : (format.leastExponent - format.leastExponent).toNat = 0 := by omega
      rw [none, ← zero, parts]
    next positive =>
      simp only [Datum.finite.injEq, decide_eq_false_iff_not, Nat.not_le] at decoded
      obtain ⟨unsigned, rfl, rfl⟩ := decoded
      rw [field_of_lt unsigned] at finite positive ⊢
      have bounded := lt_infinity unsigned finite
      generalize word / twoTo format.fractionBits = field at parts positive ⊢
      refine ⟨⟨by omega, by omega, .inr (Nat.le_add_right _ _)⟩, bounded, ?_⟩
      have steps : (format.leastExponent + field - 1 - format.leastExponent).toNat + 1 = field := by
        omega
      rw [← Nat.add_assoc, ← Nat.succ_mul, Nat.succ_eq_add_one, steps, parts]

/-- The largest exponent field stands for no number. -/
theorem Holds.exponent_lt {format : Format} {mantissa : Nat} {exponent : Int}
    (holds : format.Holds mantissa exponent)
    (finite : (exponent - format.leastExponent).toNat * twoTo format.fractionBits + mantissa <
      format.infinity) (wide : 1 < format.exponentBits) :
    exponent < format.leastExponent + (twoTo format.exponentBits - 2 : Nat) := by
  have fields : twoTo 2 ≤ twoTo format.exponentBits := Nat.pow_le_pow_right (by decide) wide
  change 4 ≤ _ at fields
  rcases holds.full with small | full
  · omega
  · have steps : ((exponent - format.leastExponent).toNat + 1) * twoTo format.fractionBits <
        (twoTo format.exponentBits - 1) * twoTo format.fractionBits := by
      rw [Nat.succ_mul]
      exact Nat.lt_of_le_of_lt (Nat.add_le_add_left full _) finite
    have := Nat.lt_of_mul_lt_mul_right steps
    omega

/-- The sign stands above the other fields. -/
theorem fields_signed (format : Format) (word : Nat) :
    (format.signWeight + word) % twoTo format.fractionBits = word % twoTo format.fractionBits ∧
      (format.signWeight + word) / twoTo format.fractionBits % twoTo format.exponentBits =
        word / twoTo format.fractionBits % twoTo format.exponentBits := by
  have weight : format.signWeight = twoTo format.exponentBits * twoTo format.fractionBits := by
    rw [signWeight, Nat.mul_comm]
    exact Nat.pow_add ..
  constructor
  · rw [weight, Nat.mul_add_mod_self_right]
  · rw [weight, Nat.mul_comm, Nat.mul_add_div (twoTo_pos _), Nat.add_mod_left]

theorem decode_signed {format : Format} {word mantissa : Nat} {negative : Bool} {exponent : Int}
    (unsigned : word < format.signWeight)
    (decoded : format.decode (format.signWeight + word) = .finite negative mantissa exponent) :
    negative = true ∧ format.decode word = .finite false mantissa exponent := by
  obtain ⟨fraction, field⟩ := format.fields_signed word
  have above : decide (format.signWeight ≤ format.signWeight + word) = true := by simp
  have below : decide (format.signWeight ≤ word) = false := by simpa using unsigned
  unfold decode at decoded ⊢
  dsimp only at decoded ⊢
  rw [fraction, field, above] at decoded
  rw [below]
  split at decoded
  next => split at decoded <;> cases decoded
  next ordinary =>
    rw [if_neg ordinary]
    split at decoded
    next zero => cases decoded; exact ⟨rfl, if_pos zero⟩
    next filled => cases decoded; exact ⟨rfl, if_neg filled⟩

theorem eq_of_decode_signed {format : Format} {word mantissa : Nat} {negative : Bool}
    {exponent : Int} (bounded : word < 2 * format.signWeight)
    (decoded : format.decode word = .finite negative mantissa exponent) :
    ∃ unsigned, format.decode unsigned = .finite false mantissa exponent ∧
      word = format.withSign negative unsigned := by
  by_cases sign : format.signWeight ≤ word
  · obtain ⟨unsigned, rfl⟩ := Nat.exists_eq_add_of_le sign
    obtain ⟨rfl, found⟩ := decode_signed (by omega) decoded
    exact ⟨unsigned, found, rfl⟩
  · have positive : negative = false := by
      unfold decode at decoded
      dsimp only at decoded
      split at decoded
      next => split at decoded <;> cases decoded
      next => split at decoded <;> cases decoded <;> simpa using sign
    subst positive
    exact ⟨word, decoded, rfl⟩

theorem decode_signWeight_add {format : Format} {word mantissa : Nat} {exponent : Int}
    (decoded : format.decode word = .finite false mantissa exponent) :
    format.decode (format.signWeight + word) = .finite true mantissa exponent := by
  obtain ⟨fraction, field⟩ := format.fields_signed word
  have above : decide (format.signWeight ≤ format.signWeight + word) = true := by simp
  unfold decode at decoded ⊢
  dsimp only at decoded ⊢
  rw [fraction, field, above]
  split at decoded
  next => split at decoded <;> cases decoded
  next ordinary =>
    rw [if_neg ordinary]
    split at decoded
    next zero =>
      rw [Datum.finite.injEq] at decoded
      rw [if_pos zero, decoded.2.1, decoded.2.2]
    next filled =>
      rw [Datum.finite.injEq] at decoded
      rw [if_neg filled, decoded.2.1, decoded.2.2]

section Counted

variable {format : Format} {mantissa : Nat} {exponent : Int}
  (holds : format.Holds mantissa exponent)
  (finite : (exponent - format.leastExponent).toNat * twoTo format.fractionBits + mantissa <
    format.infinity)

include finite

/-- The exponent field counts a mantissa with its leading bit once more. -/
theorem fields_counted :
    ((exponent - format.leastExponent).toNat * twoTo format.fractionBits + mantissa) /
          twoTo format.fractionBits =
        (exponent - format.leastExponent).toNat + mantissa / twoTo format.fractionBits ∧
      ((exponent - format.leastExponent).toNat * twoTo format.fractionBits + mantissa) %
          twoTo format.fractionBits = mantissa % twoTo format.fractionBits ∧
      (exponent - format.leastExponent).toNat + mantissa / twoTo format.fractionBits <
        twoTo format.exponentBits - 1 := by
  have field : ((exponent - format.leastExponent).toNat * twoTo format.fractionBits + mantissa) /
      twoTo format.fractionBits =
        (exponent - format.leastExponent).toNat + mantissa / twoTo format.fractionBits := by
    rw [Nat.mul_comm, Nat.mul_add_div (twoTo_pos _)]
  refine ⟨field, Nat.mul_add_mod_self_right .., ?_⟩
  rw [← field]
  exact (Nat.div_lt_iff_lt_mul (twoTo_pos _)).mpr finite

include holds

theorem decode_counted :
    format.decode ((exponent - format.leastExponent).toNat * twoTo format.fractionBits + mantissa) =
      .finite false mantissa exponent := by
  obtain ⟨field, fraction, bounded⟩ := fields_counted finite
  have double := twoTo_succ format.fractionBits
  have weight : format.infinity ≤ format.signWeight := by
    unfold infinity signWeight
    rw [Nat.add_comm]
    exact (Nat.mul_le_mul_right _ (Nat.sub_le _ 1)).trans_eq (Nat.pow_add ..).symm
  have unsigned : decide (format.signWeight ≤
      (exponent - format.leastExponent).toNat * twoTo format.fractionBits + mantissa) = false := by
    simp only [decide_eq_false_iff_not]
    omega
  unfold decode
  dsimp only
  rw [field, fraction, unsigned, Nat.mod_eq_of_lt (by omega), if_neg (Nat.ne_of_lt bounded)]
  obtain ⟨fits, least, full⟩ := holds
  by_cases small : mantissa < twoTo format.fractionBits
  · have bottom : exponent = format.leastExponent := by omega
    rw [Nat.div_eq_of_lt small, Nat.mod_eq_of_lt small, bottom, Int.sub_self]
    rfl
  · have leading : mantissa / twoTo format.fractionBits = 1 :=
      Nat.div_eq_of_lt_le (by omega) (by omega)
    rw [leading, if_neg (by omega), Nat.mod_eq_sub_mod (by omega), Nat.mod_eq_of_lt (by omega)]
    rw [Datum.finite.injEq]
    exact ⟨rfl, by omega, by omega⟩

/-- The word that counts up to a number of the format stands for it. -/
theorem decode_of_holds (negative : Bool) :
    format.decode (format.withSign negative
      ((exponent - format.leastExponent).toNat * twoTo format.fractionBits + mantissa)) =
        .finite negative mantissa exponent := by
  cases negative with
  | false => exact decode_counted holds finite
  | true => exact decode_signWeight_add (decode_counted holds finite)

end Counted

theorem decode_finite_iff (format : Format) (word : Nat) :
    (∃ negative mantissa exponent, format.decode word = .finite negative mantissa exponent) ↔
      word / twoTo format.fractionBits % twoTo format.exponentBits ≠
        twoTo format.exponentBits - 1 := by
  unfold decode
  dsimp only
  constructor
  · rintro ⟨negative, mantissa, exponent, same⟩ largest
    rw [if_pos largest] at same
    split at same <;> cases same
  · intro ordinary
    rw [if_neg ordinary]
    split <;> exact ⟨_, _, _, rfl⟩

end Format

section Field

open Float.Model Float.Model.UnpackedFloat

variable (format : Float.Model.Format)

theorem toNat_unpackExponent (word : BitVec format.numBits) :
    (unpackExponent word).toNat =
      word.toNat / twoTo format.mantissaBitsWithoutImplicit % twoTo format.exponentBits := by
  have width : format.mantissaBitsWithoutImplicit + format.exponentBits - 1 -
      format.mantissaBitsWithoutImplicit + 1 = format.exponentBits := by
    have := format.he
    omega
  unfold unpackExponent
  rw [BitVec.toNat_cast, BitVec.extractLsb_toNat, Nat.shiftRight_eq_div_pow, width]
  rfl

theorem toNat_unpackMantissa (word : BitVec format.numBits) :
    (unpackMantissa word).toNat = word.toNat % twoTo format.mantissaBitsWithoutImplicit := by
  have width : format.mantissaBitsWithoutImplicit - 1 - 0 + 1 =
      format.mantissaBitsWithoutImplicit := by
    have := format.hm
    omega
  unfold unpackMantissa
  rw [BitVec.toNat_cast, BitVec.extractLsb_toNat, width]
  rfl

theorem isFinite_unpack (word : BitVec format.numBits) :
    (unpack format word).isFinite = !(unpackExponent word == -1#_) := by
  unfold UnpackedFloat.unpack
  dsimp only
  by_cases largest : unpackExponent word = -1#_
  · rw [if_pos largest, largest, beq_self_eq_true]
    split <;> rfl
  · rw [if_neg largest, beq_eq_false_iff_ne.mpr largest]
    split
    next => split <;> rfl
    next => rfl

theorem isFinite_unpack_iff (word : BitVec format.numBits) :
    (unpack format word).isFinite = true ↔
      word.toNat / twoTo format.mantissaBitsWithoutImplicit % twoTo format.exponentBits ≠
        twoTo format.exponentBits - 1 := by
  have ones : (-BitVec.ofNat format.exponentBits 1).toNat = twoTo format.exponentBits - 1 := by
    have wide := Nat.one_lt_two_pow (Nat.ne_of_gt format.he)
    rw [BitVec.toNat_neg, BitVec.toNat_ofNat, Nat.mod_eq_of_lt wide]
    exact Nat.mod_eq_of_lt (Nat.sub_lt (by omega) (by decide))
  rw [isFinite_unpack, Bool.not_eq_true', beq_eq_false_iff_ne, Ne, ← BitVec.toNat_inj,
    toNat_unpackExponent, ones]

theorem isFinite_iff_datum {x : Float} :
    x.isFinite = true ↔
      ∃ negative mantissa exponent, datum x = .finite negative mantissa exponent :=
  (isFinite_unpack_iff Format.binary64 x.toBits.toBitVec).trans
    (Format.decode_finite_iff double _).symm

theorem isFinite_iff_datum32 {x : Float32} :
    x.isFinite = true ↔
      ∃ negative mantissa exponent, datum32 x = .finite negative mantissa exponent :=
  (isFinite_unpack_iff Format.binary32 x.toBits.toBitVec).trans
    (Format.decode_finite_iff single _).symm

end Field

section Word

variable {x : Float} {negative : Bool} {mantissa : Nat} {exponent : Int}
  (same : datum x = .finite negative mantissa exponent)

include same

theorem holds_of_datum :
    double.Holds mantissa exponent ∧
      (exponent - double.leastExponent).toNat * twoTo double.fractionBits + mantissa <
        double.infinity ∧
      ofWord (double.withSign negative
        ((exponent - double.leastExponent).toNat * twoTo double.fractionBits + mantissa)) = x := by
  have bounded : x.toBits.toNat < 2 * double.signWeight := x.toBits.toNat_lt
  obtain ⟨unsigned, decoded, word⟩ := Format.eq_of_decode_signed bounded same
  obtain ⟨holds, finite, counts⟩ := Format.eq_of_decode decoded
  rw [counts] at finite word
  refine ⟨holds, finite, ?_⟩
  unfold ofWord
  rw [← word, UInt64.ofNat_toNat, Float.ofBits_toBits]

theorem ofWord_ofRatio {num den : Nat} (filled : 0 < mantissa) (positive : 0 < den)
    (nearest : double.Nearest mantissa exponent ((num / den : ℚ) / 2 ^ exponent)) :
    ofWord (double.withSign negative (double.ofRatio num den)) = x := by
  obtain ⟨holds, finite, word⟩ := holds_of_datum same
  rw [Format.ofRatio_of_nearest positive holds nearest filled,
    Nat.min_eq_right (Nat.le_of_lt finite), word]

theorem ofWord_zero (none : mantissa = 0) : ofWord (double.withSign negative 0) = x := by
  obtain ⟨holds, -, word⟩ := holds_of_datum same
  have least : exponent = double.leastExponent := by
    rcases holds.full with least | full
    · exact least
    · have := twoTo_pos double.fractionBits
      omega
  rwa [none, least, Int.sub_self] at word

theorem exponent_le : exponent ≤ 971 := by
  obtain ⟨holds, finite, -⟩ := holds_of_datum same
  have below := holds.exponent_lt finite (by decide)
  change exponent < 2 - 1024 - 52 + 2046 at below
  omega

end Word

theorem holds_of_datum32 {x : Float32} {negative : Bool} {mantissa : Nat} {exponent : Int}
    (same : datum32 x = .finite negative mantissa exponent) :
    single.Holds mantissa exponent ∧ exponent ≤ 104 := by
  have bounded : x.toBits.toNat < 2 * single.signWeight := x.toBits.toNat_lt
  obtain ⟨unsigned, decoded, -⟩ := Format.eq_of_decode_signed bounded same
  obtain ⟨holds, finite, counts⟩ := Format.eq_of_decode decoded
  rw [counts] at finite
  have below := holds.exponent_lt finite (by decide)
  change exponent < 2 - 128 - 23 + 254 at below
  exact ⟨holds, by omega⟩

end Spreadsheet.Binary
