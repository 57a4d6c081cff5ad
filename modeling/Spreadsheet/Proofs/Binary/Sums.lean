import Spreadsheet.Proofs.Binary.Finite
import Spreadsheet.Proofs.Decimal.Display

/-! Sums and quotients up to the sign of a zero. A zero changes no sum otherwise, and what is not
finite remains so. -/

namespace Spreadsheet.Binary

open Float.Model Float.Model.UnpackedFloat
open Spreadsheet.Decimal (unsignedZero unsignedZero_eq_of_value_eq)

theorem pack_unpack (x : Float) : Float.ofModel (.pack x.toModel.unpack) = x :=
  Float.ofBits_toBits x

theorem beq_zero_iff_unpack {x : Float} :
    (x == 0) = true ↔ ∃ sign, x.toModel.unpack = .zero sign := by
  change (x.toModel.unpack.compare (.zero .positive) == some .eq) = true ↔ _
  cases x.toModel.unpack with
  | zero sign => exact iff_of_true rfl ⟨sign, rfl⟩
  | notANumber => exact iff_of_false nofun nofun
  | infinity sign | finite sign => cases sign <;> exact iff_of_false nofun nofun

theorem value_of_beq_zero {x : Float} (zero : (x == 0) = true) :
    x.isFinite = true ∧ value x = 0 := by
  obtain ⟨sign, unpacked⟩ := beq_zero_iff_unpack.mp zero
  have finite : x.isFinite = true := by
    change x.toModel.unpack.isFinite = true
    rw [unpacked]
    rfl
  exact ⟨finite, ((beq_iff finite value_zero.1).mp zero).trans value_zero.2⟩

theorem unsignedZero_eq_iff {x z : Float} :
    unsignedZero x = unsignedZero z ↔ x = z ∨ (x == 0) = true ∧ (z == 0) = true := by
  have zero : ((0 : Float) == 0) = true := rfl
  unfold unsignedZero
  constructor
  · intro same
    split at same
    next zeroX =>
      split at same
      next zeroZ => exact .inr ⟨zeroX, zeroZ⟩
      next nonzero => exact absurd (same ▸ zero) nonzero
    next nonzero =>
      split at same
      next zeroZ => exact absurd (same ▸ zero) nonzero
      next => exact .inl same
  · rintro (rfl | ⟨zeroX, zeroZ⟩)
    · rfl
    · rw [if_pos zeroX, if_pos zeroZ]

theorem isFinite_unsignedZero (x : Float) : (unsignedZero x).isFinite = x.isFinite := by
  unfold unsignedZero
  split
  next zero => rw [(value_of_beq_zero zero).1, value_zero.1]
  next => rfl

theorem unsignedZero_pack_add (sign : Sign) (u : UnpackedFloat) :
    unsignedZero (Float.ofModel (.pack (UnpackedFloat.add Format.binary64 (.zero sign) u))) =
      unsignedZero (Float.ofModel (.pack u)) ∧
    unsignedZero (Float.ofModel (.pack (UnpackedFloat.add Format.binary64 u (.zero sign)))) =
      unsignedZero (Float.ofModel (.pack u)) := by
  cases u with
  | zero sign' => cases sign <;> cases sign' <;> exact ⟨rfl, rfl⟩
  | notANumber | infinity | finite => exact ⟨rfl, rfl⟩

section Zero

variable {zero : Float} (isZero : (zero == 0) = true) (x : Float)

include isZero

theorem unsignedZero_zero_add : unsignedZero (zero + x) = unsignedZero x := by
  obtain ⟨sign, unpacked⟩ := beq_zero_iff_unpack.mp isZero
  have same := (unsignedZero_pack_add sign x.toModel.unpack).1
  rwa [← unpacked, pack_unpack] at same

theorem unsignedZero_add_zero : unsignedZero (x + zero) = unsignedZero x := by
  obtain ⟨sign, unpacked⟩ := beq_zero_iff_unpack.mp isZero
  have same := (unsignedZero_pack_add sign x.toModel.unpack).2
  rwa [← unpacked, pack_unpack] at same

end Zero

section Congruence

variable {x z : Float} (same : unsignedZero x = unsignedZero z)

include same

theorem unsignedZero_add_congr (n : Float) : unsignedZero (x + n) = unsignedZero (z + n) := by
  rcases unsignedZero_eq_iff.mp same with rfl | ⟨zeroX, zeroZ⟩
  · rfl
  · rw [unsignedZero_zero_add zeroX, unsignedZero_zero_add zeroZ]

theorem unsignedZero_foldl_congr (numbers : List Float) :
    unsignedZero (numbers.foldl (· + ·) x) = unsignedZero (numbers.foldl (· + ·) z) := by
  induction numbers generalizing x z with
  | nil => exact same
  | cons n numbers ih => exact ih (unsignedZero_add_congr same n)

theorem isFinite_congr : x.isFinite = z.isFinite := by
  rw [← isFinite_unsignedZero x, same, isFinite_unsignedZero]

theorem unsignedZero_div_congr {divisor : Float} (finite : divisor.isFinite = true)
    (nonzero : value divisor ≠ 0) : unsignedZero (x / divisor) = unsignedZero (z / divisor) := by
  have quotient {n : Float} (zero : (n == 0) = true) :
      (n / divisor).isFinite = true ∧ value (n / divisor) = 0 := by
    obtain ⟨finiteN, valueN⟩ := value_of_beq_zero zero
    have rounds := rounds_div finiteN finite nonzero
    rw [valueN, zero_div] at rounds
    exact rounds.exact representable_zero
  rcases unsignedZero_eq_iff.mp same with rfl | ⟨zeroX, zeroZ⟩
  · rfl
  · obtain ⟨finiteX, valueX⟩ := quotient zeroX
    obtain ⟨finiteZ, valueZ⟩ := quotient zeroZ
    exact unsignedZero_eq_of_value_eq finiteX finiteZ (valueX.trans valueZ.symm)

end Congruence

/-- Divided by a positive number, an infinity is itself. -/
theorem div_of_not_finite {x divisor : Float} (infinite : x.isFinite = false)
    (finite : divisor.isFinite = true) (positive : 0 < value divisor) : x / divisor = x := by
  change x.toModel.unpack.isFinite = false at infinite
  have quotient : x / divisor = Float.ofModel (.pack (UnpackedFloat.div Format.binary64
    x.toModel.unpack divisor.toModel.unpack)) := rfl
  have unchanged : UnpackedFloat.div Format.binary64 x.toModel.unpack divisor.toModel.unpack =
      x.toModel.unpack := by
    obtain ⟨-, -, zero⟩ | ⟨sign, mantissa, exponent, filled, unpacked, -, -, exact⟩ :=
      unpack_of_isFinite finite
    · exact absurd zero positive.ne'
    · have unsigned : sign = .positive := by
        cases sign with
        | positive => rfl
        | negative =>
            have scale : (0 : ℚ) < mantissa * 2 ^ exponent :=
              mul_pos (by exact_mod_cast filled) (by positivity)
            rw [exact] at positive
            change 0 < ((-mantissa : Int) : ℚ) * 2 ^ exponent at positive
            push_cast at positive
            linarith
      rw [unpacked, unsigned]
      cases unpackedX : x.toModel.unpack with
      | notANumber => rfl
      | infinity sign => cases sign <;> rfl
      | zero | finite => rw [unpackedX] at infinite; cases infinite
  rw [quotient, unchanged, pack_unpack]

end Spreadsheet.Binary
