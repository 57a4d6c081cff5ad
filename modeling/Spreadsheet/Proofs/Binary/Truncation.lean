import Spreadsheet.Proofs.Binary.Integral
import Spreadsheet.Proofs.Binary.Order

namespace Spreadsheet.Binary

open Float.Model

section Datum

variable {x : Float} {negative : Bool} {mantissa : Nat} {exponent : Int}
  (same : datum x = .finite negative mantissa exponent)

include same

theorem floor_abs_value :
    ⌊|value x|⌋₊ = mantissa * twoTo exponent.toNat / twoTo (-exponent).toNat := by
  rw [← Nat.floor_div_eq_div (K := ℚ), abs_value_of_datum same, Nat.cast_mul, cast_twoTo,
    cast_twoTo, mul_div_assoc, twoTo_ratio]

theorem truncate_of_datum :
    truncate x = max (-9223372036854775808)
      (min 9223372036854775807 (signed negative ⌊|value x|⌋₊)) := by
  rw [floor_abs_value same]
  unfold truncate
  rw [same]

theorem value_eq_abs : value x = if negative then -|value x| else |value x| := by
  rw [abs_value_of_datum same, value_of_datum same, cast_signed]
  cases negative
  · rfl
  · exact neg_mul ..

end Datum

section Finite

variable {x : Float} (finite : x.isFinite = true)

include finite

/-- Between minus one and zero nothing is left. -/
theorem truncate_of_value_gt (above : -1 < value x) :
    truncate x = min 9223372036854775807 (⌊value x⌋₊ : Int) := by
  obtain ⟨negative, mantissa, exponent, same⟩ := isFinite_iff_datum.mp finite
  have exact := value_eq_abs same
  rw [truncate_of_datum same]
  cases negative with
  | false =>
      rw [← show value x = |value x| from exact]
      change max _ (min _ (⌊value x⌋₊ : Int)) = _
      omega
  | true =>
      have exact : value x = -|value x| := exact
      have none : ⌊|value x|⌋₊ = 0 := Nat.floor_eq_zero.mpr (by linarith)
      have below : ⌊value x⌋₊ = 0 := Nat.floor_of_nonpos (by linarith [abs_nonneg (value x)])
      rw [none, below]
      rfl

theorem truncate_of_value_le (below : value x ≤ -1) : truncate x < 0 := by
  obtain ⟨negative, mantissa, exponent, same⟩ := isFinite_iff_datum.mp finite
  have exact := value_eq_abs same
  have size := abs_nonneg (value x)
  rw [truncate_of_datum same]
  cases negative with
  | false =>
      have exact : value x = |value x| := exact
      linarith
  | true =>
      have exact : value x = -|value x| := exact
      have one : 1 ≤ ⌊|value x|⌋₊ := Nat.le_floor (by push_cast; linarith)
      change max _ (min _ (-(⌊|value x|⌋₊ : Int))) < 0
      omega

end Finite

theorem truncate_of_infinity {x : Float} {sign : UnpackedFloat.Sign}
    (infinite : x.toModel.unpack = .infinity sign) :
    truncate x = if isNegative sign then -9223372036854775808 else 9223372036854775807 := by
  have decoded := datum_eq x
  rw [infinite] at decoded
  unfold truncate
  rw [decoded]
  rfl

theorem value_neg_one : value (-1) = -1 := by
  have same : datum (-1) = .finite true (2 ^ 52) (-52) := by decide
  rw [value_of_datum same]
  norm_num [signed]

theorem extended_neg_one : extended (-1) = (((-1 : ℚ) : WithTop ℚ) : WithBot (WithTop ℚ)) := by
  have same : datum (-1) = .finite true (2 ^ 52) (-52) := by decide
  unfold extended
  rw [same, value_neg_one]

/-- Above minus one there are whole numbers left, or as many as 64 bits hold. -/
theorem truncate_of_gt {x : Float} (above : -1 < x) :
    (x.isFinite = true ∧ truncate x = min 9223372036854775807 (⌊value x⌋₊ : Int)) ∨
      (x.isFinite = false ∧ truncate x = 9223372036854775807) := by
  obtain ⟨-, isNumber, above⟩ := lt_iff_extended.mp above
  rw [extended_neg_one] at above
  obtain ⟨finite, exact⟩ | ⟨infinite, exact⟩ | ⟨infinite, -⟩ := extended_cases isNumber
  · rw [exact, WithBot.coe_lt_coe, WithTop.coe_lt_coe] at above
    exact .inl ⟨finite, truncate_of_value_gt finite above⟩
  · rw [exact] at above
    exact absurd above not_lt_bot
  · refine .inr ⟨?_, truncate_of_infinity infinite⟩
    change x.toModel.unpack.isFinite = false
    rw [infinite]
    rfl

theorem truncate_of_le {x : Float} (below : x ≤ -1) : truncate x < 0 := by
  obtain ⟨isNumber, -, below⟩ := le_iff_extended.mp below
  rw [extended_neg_one] at below
  obtain ⟨finite, exact⟩ | ⟨infinite, -⟩ | ⟨-, exact⟩ := extended_cases isNumber
  · rw [exact, WithBot.coe_le_coe, WithTop.coe_le_coe] at below
    exact truncate_of_value_le finite below
  · rw [truncate_of_infinity infinite]
    decide
  · rw [exact] at below
    exact absurd (top_le_iff.mp below) (by simp)

end Spreadsheet.Binary
