import Spreadsheet.Builtin.Rounding
import Spreadsheet.Proofs.Binary.Arithmetic
import Spreadsheet.Proofs.Binary.Integral

/-! Remainders. The quotient, the product and the difference are each rounded, so the law of
remainders is one of numbers whose common unit is not too small for them. -/

namespace Spreadsheet.Rounding

open Binary

/-- A remainder is zero or has the sign of the divisor, and it is the smaller of the two. -/
structure FollowsDivisor (r d : ℚ) : Prop where
  sign : r = 0 ∨ 0 < r * d
  lt : |r| < |d|

theorem followsDivisor_sub (x : ℚ) {d : ℚ} (nonzero : d ≠ 0) :
    FollowsDivisor (x - d * ⌊x / d⌋) d := by
  have fraction : x - d * ⌊x / d⌋ = d * Int.fract (x / d) := by
    rw [Int.fract, mul_sub, mul_div_cancel₀ _ nonzero]
  have nonneg := Int.fract_nonneg (x / d)
  have below := Int.fract_lt_one (x / d)
  rw [fraction]
  constructor
  · rcases nonneg.eq_or_lt with none | some
    · exact .inl (by rw [← none, mul_zero])
    · right
      have square : 0 < d * d := mul_self_pos.mpr nonzero
      rw [mul_right_comm]
      exact mul_pos square some
  · rw [abs_mul, abs_of_nonneg nonneg]
    exact mul_lt_of_lt_one_right (abs_pos.mpr nonzero) below

section Quotient

variable {a b : Int} (nonzero : b ≠ 0)

include nonzero

/-- A quotient that is not a given integer keeps the distance of one part from it. -/
theorem one_div_le_abs_sub {n : Int} (apart : (a / b : ℚ) ≠ n) :
    1 / |(b : ℚ)| ≤ |(a / b : ℚ) - n| := by
  have scale : (b : ℚ) ≠ 0 := by exact_mod_cast nonzero
  have ratio : (a / b : ℚ) - n = (a - n * b : Int) / b := by
    push_cast
    rw [sub_div, mul_div_cancel_right₀ _ scale]
  have some : a - n * b ≠ 0 := by
    intro none
    rw [none, Int.cast_zero, zero_div, sub_eq_zero] at ratio
    exact apart ratio
  rw [ratio, abs_div]
  refine div_le_div_of_nonneg_right ?_ (abs_nonneg _)
  exact_mod_cast Int.one_le_abs some

section Rounded

variable {q : Float} (rounds : Rounds (a / b) q) (fits : |a| + |b| < 2 ^ 53)

include fits

theorem abs_quotient_lt : |(a / b : ℚ)| < 2 ^ (53 : Int) := by
  have unit : (1 : ℚ) ≤ |(b : ℚ)| := by exact_mod_cast Int.one_le_abs nonzero
  have places : |(a : ℚ)| + |(b : ℚ)| < 2 ^ (53 : Int) := by exact_mod_cast fits
  calc |(a / b : ℚ)| = |(a : ℚ)| / |(b : ℚ)| := abs_div ..
    _ ≤ |(a : ℚ)| := div_le_self (abs_nonneg _) unit
    _ < 2 ^ (53 : Int) := by linarith

include rounds

theorem isFinite_quotient : q.isFinite = true :=
  rounds.isFinite ((abs_quotient_lt nonzero fits).trans
    (zpow_lt_zpow_right₀ one_lt_two (by decide)))

/-- A quotient that is not zero is too large to lose places. -/
theorem abs_quotient_sub_lt (some : a ≠ 0) : |value q - a / b| < 1 / |(b : ℚ)| := by
  have scale : (0 : ℚ) < |(b : ℚ)| := abs_pos.mpr (by exact_mod_cast nonzero)
  have one : (1 : ℚ) ≤ |(a : ℚ)| := by exact_mod_cast Int.one_le_abs some
  have places : |(a : ℚ)| + |(b : ℚ)| < 2 ^ (53 : Int) := by exact_mod_cast fits
  have normal : (2 : ℚ) ^ (-1022 : Int) ≤ |(a / b : ℚ)| := by
    have small : |(b : ℚ)| ≤ 2 ^ (1022 : Int) :=
      (show |(b : ℚ)| ≤ 2 ^ (53 : Int) by linarith).trans
        (zpow_le_zpow_right₀ one_le_two (by decide))
    calc (2 : ℚ) ^ (-1022 : Int) = 1 / 2 ^ (1022 : Int) := by rw [zpow_neg, one_div]
      _ ≤ 1 / |(b : ℚ)| := one_div_le_one_div_of_le scale small
      _ ≤ |(a : ℚ)| / |(b : ℚ)| := div_le_div_of_nonneg_right one scale.le
      _ = |(a / b : ℚ)| := (abs_div ..).symm
  have half : (0 : ℚ) < 2 ^ (-53 : Int) := by positivity
  calc |value q - a / b| ≤ 2 ^ (-53 : Int) * |(a / b : ℚ)| :=
        rounds.abs_value_sub_le (isFinite_quotient nonzero rounds fits) normal
    _ = 2 ^ (-53 : Int) * |(a : ℚ)| / |(b : ℚ)| := by rw [abs_div, mul_div_assoc]
    _ < 2 ^ (-53 : Int) * 2 ^ (53 : Int) / |(b : ℚ)| :=
        div_lt_div_of_pos_right (mul_lt_mul_of_pos_left (by linarith) half) scale
    _ = 1 / |(b : ℚ)| := by rw [← zpow_add₀ two_ne_zero, neg_add_cancel, zpow_zero]

/-- A rounded quotient does not reach an integer that the quotient itself does not reach. -/
theorem floor_quotient : ⌊value q⌋ = ⌊(a / b : ℚ)⌋ := by
  by_cases whole : (a / b : ℚ) = ⌊(a / b : ℚ)⌋
  · have size := abs_quotient_lt nonzero fits
    have representable : Representable (a / b) := by
      rw [whole] at size ⊢
      exact representable_intCast (by exact_mod_cast size)
    rw [(rounds.exact representable).2]
  · have some : a ≠ 0 := by
      rintro rfl
      exact whole (by simp)
    have below := one_div_le_abs_sub nonzero whole
    have above : (a / b : ℚ) ≠ (⌊(a / b : ℚ)⌋ + 1 : Int) := by
      push_cast
      exact (Int.lt_floor_add_one _).ne
    have above := one_div_le_abs_sub nonzero above
    rw [abs_of_nonneg (sub_nonneg.mpr (Int.floor_le _))] at below
    rw [abs_sub_comm, Int.cast_add, Int.cast_one,
      abs_of_pos (sub_pos.mpr (Int.lt_floor_add_one _))] at above
    obtain ⟨low, high⟩ := abs_lt.mp (abs_quotient_sub_lt nonzero rounds fits some)
    rw [Int.floor_eq_iff]
    constructor <;> linarith

end Rounded

end Quotient

section Sign

variable {x d : Float} (finiteX : x.isFinite = true) (finiteD : d.isFinite = true)
  (nonzero : value d ≠ 0) (finite : (x - d * floor (x / d)).isFinite = true)

include finiteX finiteD nonzero finite

/-- Neither the product nor the difference changes the sign. It is the quotient that does, where it
is rounded up to an integer, unless the product comes down to the number again. -/
theorem sign_remainder :
    (value (x - d * floor (x / d)) = 0 ∨ 0 < value (x - d * floor (x / d)) * value d) ↔
      ⌊value (x / d)⌋ ≤ value x / value d ∨ value (d * floor (x / d)) = value x := by
  obtain ⟨-, finiteP⟩ := isFinite_of_sub finite
  obtain ⟨-, finiteN⟩ := isFinite_of_mul finiteP
  have rounds := rounds_mul finiteD finiteN
  rw [(value_floor (isFinite_of_floor finiteN)).2] at rounds
  have zero := value_sub_eq_zero_iff finiteX finiteP finite
  have nonneg := value_sub_nonneg finiteX finiteP finite
  have nonpos := value_sub_nonpos finiteX finiteP finite
  have exact := representable_value finiteX
  rw [eq_comm (b := value x), ← zero]
  generalize value (x - d * floor (x / d)) = r at zero nonneg nonpos ⊢
  rcases lt_or_gt_of_ne nonzero with negative | positive
  · rw [le_div_iff_of_neg negative, mul_comm (⌊_⌋ : ℚ)]
    constructor
    · rintro (none | same)
      · exact .inr none
      · refine .inl (not_lt.mp fun less => ?_)
        have := nonneg (rounds.value_le exact less.le finiteP)
        exact (mul_nonpos_of_nonneg_of_nonpos this negative.le).not_gt same
    · rintro (reached | none)
      · have := nonpos (rounds.le_value exact reached finiteP)
        rcases this.eq_or_lt with none | some
        · exact .inl none
        · exact .inr (mul_pos_of_neg_of_neg some negative)
      · exact .inl none
  · rw [le_div_iff₀ positive, mul_comm (⌊_⌋ : ℚ)]
    constructor
    · rintro (none | same)
      · exact .inr none
      · refine .inl (not_lt.mp fun more => ?_)
        have := nonpos (rounds.le_value exact more.le finiteP)
        exact (mul_nonpos_of_nonpos_of_nonneg this positive.le).not_gt same
    · rintro (reached | none)
      · have := nonneg (rounds.value_le exact reached finiteP)
        rcases this.eq_or_lt with none | some
        · exact .inl none.symm
        · exact .inr (mul_pos some positive)
      · exact .inl none

end Sign

section Exact

variable {x d : Float} {a b k : Int} (finiteX : x.isFinite = true) (finiteD : d.isFinite = true)
  (least : -1074 ≤ k) (most : k ≤ 971) (small : |a| + |b| < 2 ^ 53) (nonzero : b ≠ 0)
  (dividend : value x = a * 2 ^ k) (divisor : value d = b * 2 ^ k)

include finiteX finiteD least most small nonzero dividend divisor

/-- Of two numbers with a common unit neither the product nor the difference is rounded. -/
theorem value_remainder :
    (x - d * floor (x / d)).isFinite = true ∧
      value (x - d * floor (x / d)) = value x - value d * ⌊value x / value d⌋ := by
  have unit : (2 : ℚ) ^ k ≠ 0 := by positivity
  have scale : (b : ℚ) ≠ 0 := by exact_mod_cast nonzero
  have quotient : value x / value d = a / b := by
    rw [dividend, divisor, mul_div_mul_right _ _ unit]
  have rounds := rounds_div finiteX finiteD (by rw [divisor]; exact mul_ne_zero scale unit)
  rw [quotient] at rounds
  obtain ⟨finiteN, floored⟩ := value_floor (isFinite_quotient nonzero rounds small)
  rw [floor_quotient nonzero rounds small] at floored
  have rest := (followsDivisor_sub a scale).lt
  rw [quotient]
  generalize ⌊(a / b : ℚ)⌋ = n at floored rest ⊢
  have rest : |a - b * n| < |b| := by exact_mod_cast rest
  have product : Representable (value d * value (floor (x / d))) := by
    refine ⟨b * n, k, ?_, least, most, ?_⟩
    · have := abs_sub_abs_le_abs_sub (b * n) a
      rw [abs_sub_comm] at this
      omega
    · rw [floored, divisor]
      push_cast
      ring
  obtain ⟨finiteP, multiple⟩ := (rounds_mul finiteD finiteN).exact product
  rw [floored] at multiple
  have difference : Representable (value x - value (d * floor (x / d))) := by
    refine ⟨a - b * n, k, ?_, least, most, ?_⟩
    · have := abs_nonneg a
      omega
    · rw [multiple, dividend, divisor]
      push_cast
      ring
  rw [← multiple]
  exact (rounds_sub finiteX finiteP).exact difference

end Exact

section Mod

variable {v w : Value} {x d : Float} (rest : List Value) (dividend : v.toNumber = .ok x)
  (divisor : w.toNumber = .ok d) (finiteD : d.isFinite = true) (nonzero : value d ≠ 0)

include dividend divisor finiteD nonzero

theorem mod_eq : mod (v :: w :: rest) = Value.finite (x - d * floor (x / d)) := by
  have apart : (d == 0) = false := by
    rw [← Bool.not_eq_true, beq_iff finiteD value_zero.1, value_zero.2]
    exact nonzero
  unfold mod
  change (v.toNumber >>= fun x => w.toNumber >>= fun divisor =>
    if divisor == 0 then _ else Value.finite (x - divisor * floor (x / divisor))) = _
  rw [dividend, divisor]
  change (if d == 0 then _ else _) = _
  rw [apart]
  rfl

theorem mod_eq_ok_iff {r : Float} :
    mod (v :: w :: rest) = .ok (.number r) ↔ r.isFinite = true ∧ x - d * floor (x / d) = r := by
  rw [mod_eq rest dividend divisor finiteD nonzero]
  unfold Value.finite
  split
  next ok =>
    rw [Except.ok.injEq, Value.number.injEq]
    exact ⟨fun same => ⟨same ▸ ok, same⟩, And.right⟩
  next not =>
    refine iff_of_false nofun ?_
    rintro ⟨ok, rfl⟩
    exact not ok

/-- A remainder has the sign of the divisor, or is zero, just if the quotient is not rounded up to
an integer, or the product comes down to the number again. Where both numbers have a common unit
that leaves 53 binary places for them the remainder is exact. Integers below 2⁵² are such, and so
are their halves and quarters. -/
theorem mod_law (finiteX : x.isFinite = true) :
    (∀ r, mod (v :: w :: rest) = .ok (.number r) →
      ((value r = 0 ∨ 0 < value r * value d) ↔
        ⌊value (x / d)⌋ ≤ value x / value d ∨ value (d * floor (x / d)) = value x)) ∧
    ∀ a b k : Int, -1074 ≤ k → k ≤ 971 → |a| + |b| < 2 ^ 53 → value x = a * 2 ^ k →
      value d = b * 2 ^ k →
        ∃ r, mod (v :: w :: rest) = .ok (.number r) ∧
          value r = value x - value d * ⌊value x / value d⌋ ∧
          FollowsDivisor (value r) (value d) := by
  have done (r : Float) := mod_eq_ok_iff (r := r) rest dividend divisor finiteD nonzero
  constructor
  · intro r result
    obtain ⟨finite, rfl⟩ := (done r).mp result
    exact sign_remainder finiteX finiteD nonzero finite
  · intro a b k least most small unitsX unitsD
    have some : b ≠ 0 := by
      rintro rfl
      rw [Int.cast_zero, zero_mul] at unitsD
      exact nonzero unitsD
    obtain ⟨finite, exact⟩ :=
      value_remainder finiteX finiteD least most small some unitsX unitsD
    refine ⟨_, (done _).mpr ⟨finite, rfl⟩, exact, ?_⟩
    rw [exact]
    exact followsDivisor_sub _ nonzero

end Mod

/-- MOD(-7, 3) -/
theorem mod_law_seven :
    ∃ r, mod [.number (-7), .number 3] = .ok (.number r) ∧
      value r = value (-7) - value 3 * ⌊value (-7) / value 3⌋ ∧
      FollowsDivisor (value r) (value 3) := by
  have seven : datum (-7) = .finite true 7881299347898368 (-50) := by decide
  have three : datum 3 = .finite false 6755399441055744 (-51) := by decide
  have dividend : value (-7) = (-7 : Int) * 2 ^ (0 : Int) := by
    rw [value_of_datum seven]
    norm_num [signed]
  have divisor : value 3 = (3 : Int) * 2 ^ (0 : Int) := by
    rw [value_of_datum three]
    norm_num [signed]
  have law := mod_law (v := .number (-7)) (w := .number 3) [] rfl rfl (by decide)
    (value_pos_of_datum three (by decide)).ne' (by decide)
  exact law.2 (-7) 3 0 (by decide) (by decide) (by decide) dividend divisor

/-- A quotient that is rounded up to an integer leaves a remainder of the other sign. -/
theorem mod_opposes_divisor :
    ∃ r, mod [.number 3.4, .number 0.2] = .ok (.number r) ∧
      ¬FollowsDivisor (value r) (value 0.2) := by
  have divisor : datum 0.2 = .finite false 7205759403792794 (-55) := by decide +kernel
  have result : datum (3.4 - 0.2 * floor (3.4 / 0.2)) = .finite true 4503599627370496 (-103) := by
    decide +kernel
  have finiteD := isFinite_iff_datum.mpr ⟨_, _, _, divisor⟩
  have finite := isFinite_iff_datum.mpr ⟨_, _, _, result⟩
  have positive := value_pos_of_datum divisor (by decide)
  have negative := value_neg_of_datum result (by decide)
  refine ⟨_, (mod_eq_ok_iff [] rfl rfl finiteD positive.ne').mpr ⟨finite, rfl⟩, fun follows => ?_⟩
  rcases follows.sign with none | same
  · exact negative.ne none
  · exact (mul_neg_of_neg_of_pos negative positive).not_gt same

end Spreadsheet.Rounding
