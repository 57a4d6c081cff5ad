import Spreadsheet.Proofs.Binary.Finite
import Spreadsheet.Value.Convert

namespace Spreadsheet.Value

open Spreadsheet.Binary

/-- Within 64 bits a length is rounded to a number. -/
theorem rounds_ofCount (n : Nat) :
    Rounds (min n 18446744073709551615 : Nat) (ofCount n) := by
  have rounds := rounds_ofUInt64 (UInt64.ofNat (min n 18446744073709551615))
  have held : min n 18446744073709551615 < UInt64.size :=
    Nat.lt_succ_of_le (Nat.min_le_right ..)
  rwa [UInt64.toNat_ofNat_of_lt' held] at rounds

theorem isFinite_ofCount (n : Nat) : (ofCount n).isFinite = true := isFinite_ofUInt64 _

/-- Lengths of up to 53 binary places are not rounded. -/
theorem value_ofCount {n : Nat} (fits : n ≤ 2 ^ 53) : value (ofCount n) = n := by
  have rounds := rounds_ofCount n
  rw [Nat.min_eq_left (fits.trans (by decide))] at rounds
  refine (rounds.exact ?_).2
  obtain less | rfl := Nat.lt_or_eq_of_le fits
  · have small : |(n : Int)| < 2 ^ 53 := by
      rw [Nat.abs_cast]
      exact_mod_cast less
    exact_mod_cast representable_intCast small
  · exact ⟨1, 53, by decide, by decide, by decide, by norm_num⟩

/-- The value is read as a finite number, the one that stands for `q`. -/
def ReadsAs (value : Value) (q : ℚ) : Prop :=
  ∃ x, value.number? = some x ∧ x.isFinite = true ∧ Binary.value x = q

theorem readsAs_ofCount {n : Nat} (fits : n ≤ 2 ^ 53) : ReadsAs (.number (ofCount n)) n :=
  ⟨_, rfl, isFinite_ofCount n, value_ofCount fits⟩

theorem ofCount_le_ofCount {m n : Nat} (le : m ≤ n) : ofCount m ≤ ofCount n := by
  rw [le_iff (isFinite_ofCount m) (isFinite_ofCount n)]
  obtain less | same := Nat.lt_or_eq_of_le
    (show min m 18446744073709551615 ≤ min n 18446744073709551615 by omega)
  · exact (rounds_ofCount m).value_le_value (rounds_ofCount n) (Nat.cast_nonneg _)
      (by exact_mod_cast less) (isFinite_ofCount m) (isFinite_ofCount n)
  · unfold ofCount
    rw [same]

theorem one_le_value_ofCount {n : Nat} (positive : 0 < n) : 1 ≤ value (ofCount n) := by
  have above := (le_iff (isFinite_ofCount 1) (isFinite_ofCount n)).mp (ofCount_le_ofCount positive)
  rwa [value_ofCount (by decide), Nat.cast_one] at above

end Spreadsheet.Value
