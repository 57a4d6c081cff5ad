import Spreadsheet.Proofs.Binary.Arithmetic

namespace Spreadsheet.Binary

open Float.Model Float.Model.UnpackedFloat

theorem isFinite_neg {x : Float} (finite : x.isFinite = true) : (-x).isFinite = true :=
  (value_neg finite).1

theorem isFinite_abs {x : Float} (finite : x.isFinite = true) : x.abs.isFinite = true :=
  (value_abs finite).1

/-- A divisor of at least one makes no number greater. -/
theorem isFinite_div {x z : Float} (finite : x.isFinite = true) (finite' : z.isFinite = true)
    (large : 1 ≤ |value z|) : (x / z).isFinite = true := by
  have nonzero : value z ≠ 0 := abs_pos.mp (zero_lt_one.trans_le large)
  refine (rounds_div finite finite' nonzero).isFinite_of_abs_le
    (representable_value (isFinite_abs finite)) ?_
  rw [(value_abs finite).2, abs_div]
  exact div_le_self (abs_nonneg _) large

theorem isFinite_percent {x : Float} (finite : x.isFinite = true) : (x / 100).isFinite = true := by
  have same : datum 100 = .finite false (100 * 2 ^ 46) (-46) := by decide
  refine isFinite_div finite (isFinite_iff_datum.mpr ⟨_, _, _, same⟩) ?_
  rw [abs_value_of_datum same]
  norm_num

theorem rounds_ofUInt64 (n : UInt64) : Rounds n.toNat n.toFloat := by
  have rounds : Rounds ((n.toNat : Int) * 2 ^ (0 : Int)) n.toFloat :=
    rounds_normalize n.toNat 0 .positive
  rwa [zpow_zero, mul_one] at rounds

theorem isFinite_ofUInt64 (n : UInt64) : n.toFloat.isFinite = true := by
  refine (rounds_ofUInt64 n).isFinite ?_
  have bound : (n.toNat : ℚ) < 2 ^ (64 : Int) := by exact_mod_cast n.toNat_lt
  rw [Nat.abs_cast]
  exact bound.trans (zpow_lt_zpow_right₀ one_lt_two (by decide))

end Spreadsheet.Binary
