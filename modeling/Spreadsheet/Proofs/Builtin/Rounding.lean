import Spreadsheet.Builtin.Rounding
import Spreadsheet.Proofs.Binary.Arithmetic
import Spreadsheet.Proofs.Binary.Integral

/-! Rounding to a number of digits. A number is moved one unit up before it is rounded, so it goes
to the nearest integer unless that unit takes it to a half. -/

namespace Spreadsheet.Rounding

open Binary

/-- No integer is nearer to `y` than `n`, and of two that are as near `n` is the one away from
zero. -/
structure Nearest (y : ℚ) (n : Int) : Prop where
  near : |y - n| ≤ 1 / 2
  away : |y - n| = 1 / 2 → |y| ≤ |(n : ℚ)|

theorem nearest_neg {y : ℚ} {n : Int} : Nearest (-y) (-n) ↔ Nearest y n := by
  have apart : |-y - (-n : Int)| = |y - n| := by
    rw [Int.cast_neg, ← neg_sub', abs_neg]
  have size : |((-n : Int) : ℚ)| = |(n : ℚ)| := by rw [Int.cast_neg, abs_neg]
  constructor
  · rintro ⟨near, away⟩
    rw [apart] at near away
    rw [abs_neg, size] at away
    exact ⟨near, away⟩
  · rintro ⟨near, away⟩
    refine ⟨?_, ?_⟩
    · rwa [apart]
    · rwa [apart, abs_neg, size]

theorem nearest_iff_floor {y : ℚ} (nonneg : 0 ≤ y) {n : Int} : Nearest y n ↔ ⌊y + 1 / 2⌋ = n := by
  rw [Int.floor_eq_iff]
  constructor
  · rintro ⟨near, away⟩
    obtain ⟨low, high⟩ := abs_le.mp near
    refine ⟨by linarith, lt_of_le_of_ne (by linarith) fun tie => ?_⟩
    -- Halfway above a number that is not negative, the integer below is not the one away from zero.
    have half : y - n = 1 / 2 := by linarith
    have reach := away (by rw [half]; norm_num)
    have whole : (0 : ℚ) ≤ n := by
      have : (-1 : ℚ) < n := by linarith
      have : -1 < n := by exact_mod_cast this
      exact_mod_cast (show 0 ≤ n by omega)
    rw [abs_of_nonneg nonneg, abs_of_nonneg whole] at reach
    linarith
  · rintro ⟨low, high⟩
    refine ⟨abs_le.mpr ⟨by linarith, by linarith⟩, fun tie => ?_⟩
    rcases (abs_eq (by norm_num)).mp tie with above | below
    · linarith
    · rw [abs_of_nonneg nonneg]
      exact le_trans (by linarith) (le_abs_self (n : ℚ))

theorem nearest_intCast {m n : Int} : Nearest m n ↔ m = n := by
  constructor
  · rintro ⟨near, -⟩
    have : |m - n| < 1 := by exact_mod_cast near.trans_lt (by norm_num : (1 / 2 : ℚ) < 1)
    exact sub_eq_zero.mp (Int.abs_lt_one_iff.mp this)
  · rintro rfl
    refine ⟨?_, fun _ => le_refl _⟩
    rw [sub_self, abs_zero]
    norm_num

def IsHalf (y : ℚ) : Prop := ∃ j : Int, y = j + 1 / 2

/-- A unit more moves a number to the next integer just if that takes it to a half. -/
theorem floor_unit_more {m : Nat} {e : Int} (fraction : e ≤ -1) :
    ⌊((m + 1) * 2 ^ e + 1 / 2 : ℚ)⌋ = ⌊(m * 2 ^ e + 1 / 2 : ℚ)⌋ ↔ ¬IsHalf ((m + 1) * 2 ^ e) := by
  have unit : (0 : ℚ) < 2 ^ e := by positivity
  have low := Int.floor_le (m * 2 ^ e + 1 / 2 : ℚ)
  have high := Int.lt_floor_add_one (m * 2 ^ e + 1 / 2 : ℚ)
  rw [add_mul, one_mul]
  constructor
  · rintro same ⟨j, half⟩
    have next : ⌊(m * 2 ^ e + 2 ^ e + 1 / 2 : ℚ)⌋ = j + 1 := by
      rw [half, add_assoc, add_halves, Int.floor_add_one, Int.floor_intCast]
    have small : (2 : ℚ) ^ e ≤ 1 / 2 := by
      calc (2 : ℚ) ^ e ≤ 2 ^ (-1 : Int) := zpow_le_zpow_right₀ one_le_two fraction
        _ = 1 / 2 := by norm_num
    rw [← same, next] at low
    push_cast at low
    linarith
  · intro apart
    generalize ⌊(m * 2 ^ e + 1 / 2 : ℚ)⌋ = j at low high ⊢
    -- The half above is some units away, so it is one unit away or more.
    obtain ⟨k, rfl⟩ : ∃ k : Nat, e = -(k + 1 : Nat) := ⟨(-e - 1).toNat, by omega⟩
    have units : (j + 1 / 2 : ℚ) = ((2 * j + 1) * 2 ^ k : Int) * 2 ^ (-(k + 1 : Nat) : Int) := by
      rw [zpow_neg, zpow_natCast, pow_succ]
      push_cast
      field_simp
    have below : (m : Int) < (2 * j + 1) * 2 ^ k := by
      have : (m : ℚ) < ((2 * j + 1) * 2 ^ k : Int) := by
        refine lt_of_mul_lt_mul_right ?_ unit.le
        rw [← units]
        linarith
      exact_mod_cast this
    have reach : (m + 1 : ℚ) * 2 ^ (-(k + 1 : Nat) : Int) ≤ j + 1 / 2 := by
      rw [units]
      refine mul_le_mul_of_nonneg_right ?_ unit.le
      exact_mod_cast Int.add_one_le_of_lt below
    have short : (m + 1 : ℚ) * 2 ^ (-(k + 1 : Nat) : Int) ≠ j + 1 / 2 := by
      rw [add_mul, one_mul]
      exact fun half => apart ⟨j, half⟩
    rw [Int.floor_eq_iff]
    have := lt_of_le_of_ne reach short
    constructor <;> linarith

section Nudge

variable {x : Float} {negative : Bool} {m : Nat} {e : Int}
  (same : datum x = .finite negative m e)

include same

theorem value_roundNudged (most : e ≤ 970) :
    (roundNudged x).isFinite = true ∧ value (roundNudged x) =
      if 0 ≤ value x then (⌊((m + 1) * 2 ^ e + 1 / 2 : ℚ)⌋ : ℚ)
      else -⌊((m + 1) * 2 ^ e + 1 / 2 : ℚ)⌋ := by
  have finite := isFinite_iff_datum.mpr ⟨_, _, _, same⟩
  have above : (0 : ℚ) ≤ (m + 1) * 2 ^ e := by positivity
  unfold roundNudged
  by_cases nonneg : 0 ≤ value x
  · rw [if_pos nonneg, if_pos ((le_iff value_zero.1 finite).mpr (by rwa [value_zero.2]))]
    obtain ⟨next, exact⟩ := value_nextUp same nonneg most
    rw [← exact] at above ⊢
    exact value_roundHalfAway next above
  · rw [if_neg nonneg, if_neg (mt (le_iff value_zero.1 finite).mp (by rwa [value_zero.2]))]
    have positive : 0 ≤ value (-x) := by
      rw [(value_neg finite).2, neg_nonneg]
      exact (not_le.mp nonneg).le
    obtain ⟨next, exact⟩ := value_nextUp (datum_neg same) positive most
    rw [← exact] at above ⊢
    obtain ⟨whole, rounded⟩ := value_roundHalfAway next above
    rw [← rounded]
    exact value_neg whole

end Nudge

/-- A number below 2⁵² goes to an integer, and to the nearest one unless the unit takes it to a
half. -/
theorem roundNudged_nearest {x : Float} (finite : x.isFinite = true)
    (small : |value x| < 2 ^ (52 : Int)) :
    ∃ n : Int, |n| ≤ 2 ^ 52 ∧ (roundNudged x).isFinite = true ∧ value (roundNudged x) = n ∧
      (Nearest (value x) n ↔ ¬IsHalf (value (nextUp x.abs))) := by
  obtain ⟨negative, m, e, same⟩ := isFinite_iff_datum.mp finite
  obtain ⟨holds, -, -⟩ := holds_of_datum same
  have size := abs_value_of_datum same
  have fraction : e ≤ -1 := by
    rw [size] at small
    have := (holds.lt_iff (by decide)).mp small
    omega
  obtain ⟨whole, rounded⟩ := value_roundNudged same (by omega)
  have fits : m < 2 ^ 53 := holds.fits
  have bound : |⌊((m + 1) * 2 ^ e + 1 / 2 : ℚ)⌋| ≤ 2 ^ 52 := by
    have unit : (2 : ℚ) ^ e ≤ 2 ^ (-1 : Int) := zpow_le_zpow_right₀ one_le_two fraction
    have most : ((m + 1) * 2 ^ e : ℚ) ≤ 2 ^ 53 * 2 ^ (-1 : Int) :=
      mul_le_mul (by exact_mod_cast fits) unit (by positivity) (by positivity)
    rw [abs_of_nonneg (Int.floor_nonneg.mpr (by positivity))]
    refine Int.le_of_lt_add_one (Int.floor_lt.mpr ?_)
    norm_num at most ⊢
    linarith
  rw [value_nextUp_abs same (by omega), ← floor_unit_more fraction, ← size,
    eq_comm (a := ⌊_⌋), ← nearest_iff_floor (abs_nonneg _)]
  generalize ⌊((m + 1) * 2 ^ e + 1 / 2 : ℚ)⌋ = n at *
  by_cases nonneg : 0 ≤ value x
  · rw [if_pos nonneg] at rounded
    refine ⟨n, bound, whole, rounded, ?_⟩
    rw [abs_of_nonneg nonneg]
  · rw [if_neg nonneg] at rounded
    refine ⟨-n, ?_, whole, ?_, ?_⟩
    · rwa [abs_neg]
    · rw [rounded, Int.cast_neg]
    · rw [abs_of_neg (not_le.mp nonneg), ← nearest_neg, neg_neg]

theorem isHalf_intCast_add {n e : Int} (fraction : e ≤ -1) : IsHalf (n + 2 ^ e) ↔ e = -1 := by
  have unit : (0 : ℚ) < 2 ^ e := by positivity
  have most : (2 : ℚ) ^ e ≤ 2 ^ (-1 : Int) := zpow_le_zpow_right₀ one_le_two fraction
  norm_num at most
  constructor
  · rintro ⟨j, same⟩
    have apart : ((j - n : Int) : ℚ) = 2 ^ e - 1 / 2 := by
      push_cast
      linarith
    have low : (-1 : ℚ) < (j - n : Int) := by linarith
    have high : ((j - n : Int) : ℚ) < 1 := by linarith
    have none : j - n = 0 := by
      have low : -1 < j - n := by exact_mod_cast low
      have high : j - n < 1 := by exact_mod_cast high
      omega
    rw [none, Int.cast_zero, eq_comm, sub_eq_zero] at apart
    refine zpow_right_injective₀ two_pos (by norm_num) (apart.trans ?_)
    norm_num
  · rintro rfl
    refine ⟨n, ?_⟩
    norm_num

/-- The unit takes an integer to a half where the unit is a half itself. -/
theorem isHalf_nextUp_iff {x : Float} (finite : x.isFinite = true) {n : Int} (whole : value x = n)
    (small : |n| < 2 ^ 52) : IsHalf (value (nextUp x.abs)) ↔ 2 ^ 51 ≤ |n| := by
  obtain ⟨negative, m, e, same⟩ := isFinite_iff_datum.mp finite
  obtain ⟨holds, -, -⟩ := holds_of_datum same
  have size : ((|n| : Int) : ℚ) = m * 2 ^ e := by
    rw [Int.cast_abs, ← whole, abs_value_of_datum same]
  have fraction : e + 53 ≤ 52 := by
    rw [← holds.lt_iff (by decide), ← size]
    exact_mod_cast small
  have halves : |n| < 2 ^ 51 ↔ e + 53 ≤ 51 := by
    rw [← holds.lt_iff (by decide), ← size]
    exact_mod_cast Iff.rfl
  rw [value_nextUp_abs same (by omega), add_mul, one_mul, ← size,
    isHalf_intCast_add (by omega), ← not_lt, halves]
  omega

/-- What is known of a product of `k` tens, of which those up to 22 are not rounded. -/
structure TenTo (k : Nat) (x : Float) : Prop where
  exact : k ≤ 22 → x.isFinite = true ∧ value x = 10 ^ k
  large : x.isFinite = true → 10 ^ min k 22 ≤ |value x|

theorem representable_ten_pow {k : Nat} (small : k ≤ 22) : Representable (10 ^ k) := by
  refine ⟨5 ^ k, k, ?_, by omega, by omega, ?_⟩
  · calc |(5 : Int) ^ k| = 5 ^ k := abs_of_pos (by positivity)
      _ ≤ 5 ^ 22 := pow_le_pow_right₀ (by decide) small
      _ < 2 ^ 53 := by decide
  · rw [zpow_natCast]
    push_cast
    rw [← mul_pow]
    norm_num

theorem TenTo.of_value {k : Nat} {x : Float} (small : k ≤ 22) (finite : x.isFinite = true)
    (exact : value x = 10 ^ k) : TenTo k x where
  exact _ := ⟨finite, exact⟩
  large _ := by
    rw [exact, Nat.min_eq_left small]
    exact le_abs_self _

theorem TenTo.mul {j k : Nat} {x z : Float} (tenX : TenTo j x) (tenZ : TenTo k z) :
    TenTo (j + k) (x * z) where
  exact small := by
    obtain ⟨finiteX, exactX⟩ := tenX.exact (by omega)
    obtain ⟨finiteZ, exactZ⟩ := tenZ.exact (by omega)
    have rounds := rounds_mul finiteX finiteZ
    rw [exactX, exactZ, ← pow_add] at rounds
    exact rounds.exact (representable_ten_pow small)
  large finite := by
    obtain ⟨finiteX, finiteZ⟩ := isFinite_of_mul finite
    refine (rounds_mul finiteX finiteZ).le_abs_value (representable_ten_pow (by omega)) ?_ finite
    rw [abs_mul]
    calc (10 : ℚ) ^ min (j + k) 22 ≤ 10 ^ (min j 22 + min k 22) :=
          pow_le_pow_right₀ (by norm_num) (by omega)
      _ = 10 ^ min j 22 * 10 ^ min k 22 := pow_add ..
      _ ≤ |value x| * |value z| :=
          mul_le_mul (tenX.large finiteX) (tenZ.large finiteZ) (by positivity) (abs_nonneg _)

theorem tenTo_odd {j k : Nat} (n : Nat) {result base : Float} (tenResult : TenTo j result)
    (tenBase : TenTo k base) :
    TenTo (j + k * (n % 2)) (if n % 2 = 1 then result * base else result) := by
  obtain even | odd := Nat.mod_two_eq_zero_or_one n
  · rw [even]
    exact tenResult
  · rw [odd, Nat.mul_one]
    exact tenResult.mul tenBase

theorem tenTo_timesPower {j k n : Nat} {result base : Float} (tenResult : TenTo j result)
    (tenBase : TenTo k base) : TenTo (j + k * n) (timesPower result base n) := by
  induction n using Nat.strongRecOn generalizing j k result base with
  | ind n ih =>
      have step := tenTo_odd n tenResult tenBase
      rw [timesPower]
      by_cases last : n / 2 = 0
      · have parts : j + k * n = j + k * (n % 2) := by rw [Nat.mod_eq_of_lt (by omega)]
        rw [if_pos last, parts]
        exact step
      · have parts : j + k * n = j + k * (n % 2) + (k + k) * (n / 2) := by
          conv_lhs => rw [← Nat.mod_add_div n 2]
          ring
        rw [if_neg last, parts]
        exact ih (n / 2) (by omega) step (tenBase.mul tenBase)

theorem tenTo_powerOfTen (n : Nat) : TenTo n (powerOfTen n) := by
  have one : datum 1 = .finite false (2 ^ 52) (-52) := by decide
  have ten : datum 10 = .finite false (5 * 2 ^ 50) (-49) := by decide
  have tenOne : TenTo 0 1 := by
    refine .of_value (by decide) (isFinite_iff_datum.mpr ⟨_, _, _, one⟩) ?_
    rw [value_of_datum one]
    norm_num [signed]
  have tenTen : TenTo 1 10 := by
    refine .of_value (by decide) (isFinite_iff_datum.mpr ⟨_, _, _, ten⟩) ?_
    rw [value_of_datum ten]
    norm_num [signed]
  have power := tenTo_timesPower (n := n) tenOne tenTen
  rwa [Nat.zero_add, Nat.one_mul] at power

section Scaled

variable {x : Float}

theorem value_integersFrom :
    integersFrom.isFinite = true ∧ value integersFrom = 2 ^ (52 : Int) := by
  have same : datum integersFrom = .finite false (2 ^ 52) 0 := by decide
  refine ⟨isFinite_iff_datum.mpr ⟨_, _, _, same⟩, ?_⟩
  rw [value_of_datum same]
  norm_num [signed]

/-- Where the scaled number is too large to have a fraction the number stays as it is. Any other is
rounded and scaled back. -/
theorem roundTo_cases (x : Float) {digits : Int} (nonneg : 0 ≤ digits) :
    (((x * powerOfTen digits.natAbs).isFinite = true →
        2 ^ (52 : Int) ≤ |value (x * powerOfTen digits.natAbs)|) ∧
      roundTo x digits = .ok (.number x)) ∨
    ((x * powerOfTen digits.natAbs).isFinite = true ∧
      |value (x * powerOfTen digits.natAbs)| < 2 ^ (52 : Int) ∧
      roundTo x digits = Value.finite
        (roundNudged (x * powerOfTen digits.natAbs) / powerOfTen digits.natAbs)) := by
  unfold roundTo
  simp only [if_pos nonneg]
  generalize x * powerOfTen digits.natAbs = scaled
  by_cases finite : scaled.isFinite = true
  · have size := value_abs finite
    have large : integersFrom ≤ scaled.abs ↔ 2 ^ (52 : Int) ≤ |value scaled| := by
      rw [le_iff value_integersFrom.1 size.1, value_integersFrom.2, size.2]
    by_cases integral : integersFrom ≤ scaled.abs
    · refine .inl ⟨fun _ => large.mp integral, if_pos ?_⟩
      rw [finite, decide_eq_true integral]
      rfl
    · refine .inr ⟨finite, not_le.mp (mt large.mpr integral), if_neg ?_⟩
      rw [finite, decide_eq_false integral]
      exact Bool.false_ne_true
  · refine .inl ⟨fun ok => absurd ok finite, if_pos ?_⟩
    rw [Bool.eq_false_of_not_eq_true finite]
    rfl

/-- Scaling back divides the integer, which is rounded once. -/
theorem rounds_scaledBack {n : Int} {k : Nat} (finite : x.isFinite = true) (whole : value x = n)
    (small : |n| ≤ 2 ^ 52) (ok : (powerOfTen k).isFinite = true) :
    ∃ r, Value.finite (x / powerOfTen k) = .ok (.number r) ∧ r.isFinite = true ∧
      Rounds (n / value (powerOfTen k)) r := by
  have large : 1 ≤ |value (powerOfTen k)| :=
    (one_le_pow₀ (by norm_num)).trans ((tenTo_powerOfTen k).large ok)
  have nonzero : value (powerOfTen k) ≠ 0 := abs_pos.mp (zero_lt_one.trans_le large)
  have rounds := rounds_div finite ok nonzero
  rw [whole] at rounds
  have bound : |(n / value (powerOfTen k) : ℚ)| < 2 ^ (1023 : Int) := by
    rw [abs_div]
    calc |(n : ℚ)| / |value (powerOfTen k)| ≤ |(n : ℚ)| := div_le_self (abs_nonneg _) large
      _ ≤ 2 ^ (52 : Int) := by exact_mod_cast small
      _ < 2 ^ (1023 : Int) := zpow_lt_zpow_right₀ one_lt_two (by decide)
  have finite := rounds.isFinite bound
  exact ⟨_, if_pos finite, finite, rounds⟩

theorem roundTo_zero (finite : x.isFinite = true) :
    ∃ (r : Float) (n : Int), roundTo x 0 = .ok (.number r) ∧ value r = n ∧
      (Nearest (value x) n ↔ 2 ^ (52 : Int) ≤ |value x| ∨ ¬IsHalf (value (nextUp x.abs))) := by
  obtain ⟨ok, one⟩ := (tenTo_powerOfTen 0).exact (by decide)
  rw [pow_zero] at one
  have rounds := rounds_mul finite ok
  rw [one, mul_one] at rounds
  obtain ⟨finiteS, scaled⟩ := rounds.exact (representable_value finite)
  obtain ⟨large, same⟩ | ⟨-, small, same⟩ := roundTo_cases x (le_refl 0)
  · have large := large finiteS
    change 2 ^ (52 : Int) ≤ |value (x * powerOfTen 0)| at large
    rw [scaled] at large
    obtain ⟨n, whole⟩ := exists_intCast_of_large finite large
    refine ⟨x, n, same, whole, iff_of_true ?_ (.inl large)⟩
    rw [whole]
    exact nearest_intCast.mpr rfl
  · change |value (x * powerOfTen 0)| < 2 ^ (52 : Int) at small
    obtain ⟨n, bound, finiteR, whole, nearest⟩ := roundNudged_nearest finiteS small
    obtain ⟨r, done, -, rounds⟩ := rounds_scaledBack finiteR whole bound ok
    rw [one, div_one] at rounds
    have exact := (rounds.exact (representable_intCast (bound.trans_lt (by decide)))).2
    rw [value_nextUp_abs_congr finiteS finite scaled small, scaled] at nearest
    rw [scaled] at small
    refine ⟨r, n, same.trans done, exact, nearest.trans ?_⟩
    exact (or_iff_right small.not_ge).symm

/-- Between 2⁵¹ and 2⁵² numbers are counted in halves. -/
def InHalves (n : Int) : Prop := 2 ^ 51 ≤ |n| ∧ |n| < 2 ^ 52

section Integer

variable {n : Int} {k : Nat} (finite : x.isFinite = true) (whole : value x = n)

theorem le_of_mul_ten_pow_lt (some : n ≠ 0) (small : |n * 10 ^ k| < 2 ^ 52) : k ≤ 15 := by
  by_contra more
  have power : (10 : Int) ^ 16 ≤ 10 ^ k := pow_le_pow_right₀ (by decide) (by omega)
  have large : 1 * 10 ^ k ≤ |n| * |10 ^ k| :=
    mul_le_mul (Int.one_le_abs some) (le_abs_self _) (by positivity) (abs_nonneg n)
  rw [abs_mul] at small
  omega

theorem le_of_inHalves (halves : InHalves (n * 10 ^ k)) : k ≤ 15 := by
  refine le_of_mul_ten_pow_lt ?_ halves.2
  rintro rfl
  have least := halves.1
  rw [zero_mul] at least
  exact absurd least (by decide)

include finite whole

/-- An integer that stays below 2⁵² is scaled exactly. -/
theorem value_scaled (small : |n * 10 ^ k| < 2 ^ 52) (few : k ≤ 15) :
    (x * powerOfTen k).isFinite = true ∧ value (x * powerOfTen k) = (n * 10 ^ k : Int) := by
  obtain ⟨ok, ten⟩ := (tenTo_powerOfTen k).exact (by omega)
  have rounds := rounds_mul finite ok
  have product : (n : ℚ) * 10 ^ k = (n * 10 ^ k : Int) := by push_cast; rfl
  rw [whole, ten, product] at rounds
  exact rounds.exact (representable_intCast (small.trans (by decide)))

/-- No integer comes below 2⁵² by being scaled. -/
theorem abs_mul_lt_of_scaled (some : n ≠ 0) (ok : (x * powerOfTen k).isFinite = true)
    (small : |value (x * powerOfTen k)| < 2 ^ (52 : Int)) : |n * 10 ^ k| < 2 ^ 52 := by
  obtain ⟨-, okTen⟩ := isFinite_of_mul ok
  have rounds := rounds_mul finite okTen
  have least : Representable (2 ^ (52 : Int)) :=
    ⟨1, 52, by decide, by decide, by decide, by rw [Int.cast_one, one_mul]⟩
  by_contra large
  refine small.not_ge (rounds.le_abs_value least ?_ ok)
  rw [whole, abs_mul]
  by_cases few : k ≤ 22
  · rw [((tenTo_powerOfTen k).exact few).2, ← abs_mul]
    exact_mod_cast not_lt.mp large
  · have ten := (tenTo_powerOfTen k).large okTen
    rw [Nat.min_eq_right (by omega)] at ten
    have one : (1 : ℚ) ≤ |(n : ℚ)| := by exact_mod_cast Int.one_le_abs some
    calc (2 : ℚ) ^ (52 : Int) ≤ 1 * 10 ^ 22 := by norm_num
      _ ≤ |(n : ℚ)| * |value (powerOfTen k)| := mul_le_mul one ten (by positivity) (abs_nonneg _)

omit finite whole

/-- An integer that has been moved is not scaled back to where it was. -/
theorem eq_of_scaledBack {r : Float} {m : Int} (ok : r.isFinite = true)
    (rounds : Rounds (m / 10 ^ k) r) (same : value r = n) (few : k ≤ 15) (small : |m| ≤ 2 ^ 52) :
    n * 10 ^ k = m := by
  have scale : (0 : ℚ) < 10 ^ k := by positivity
  by_cases none : m = 0
  · subst none
    rw [Int.cast_zero, zero_div] at rounds
    have zero := (rounds.exact representable_zero).2
    rw [same, Int.cast_eq_zero] at zero
    rw [zero, zero_mul]
  · have normal : (2 : ℚ) ^ (-1022 : Int) ≤ |(m / 10 ^ k : ℚ)| := by
      rw [abs_div, abs_of_pos scale, le_div_iff₀ scale]
      calc (2 : ℚ) ^ (-1022 : Int) * 10 ^ k ≤ 2 ^ (-50 : Int) * 10 ^ 15 :=
            mul_le_mul (zpow_le_zpow_right₀ one_le_two (by decide))
              (pow_le_pow_right₀ (by norm_num) few) scale.le (by positivity)
        _ ≤ 1 := by norm_num
        _ ≤ |(m : ℚ)| := by exact_mod_cast Int.one_le_abs none
    have near := rounds.abs_value_sub_le ok normal
    rw [same, abs_div, abs_of_pos scale, ← mul_div_assoc, le_div_iff₀ scale] at near
    have moved : ((n * 10 ^ k - m : Int) : ℚ) = (n - m / 10 ^ k) * 10 ^ k := by
      push_cast
      rw [sub_mul, div_mul_cancel₀ _ scale.ne']
    have apart : |((n * 10 ^ k - m : Int) : ℚ)| < 1 := by
      calc |((n * 10 ^ k - m : Int) : ℚ)| = |(n - m / 10 ^ k : ℚ)| * 10 ^ k := by
            rw [moved, abs_mul, abs_of_pos scale]
        _ ≤ 2 ^ (-53 : Int) * |(m : ℚ)| := near
        _ ≤ 2 ^ (-53 : Int) * 2 ^ 52 :=
            mul_le_mul_of_nonneg_left (by exact_mod_cast small) (by positivity)
        _ < 1 := by norm_num
    exact sub_eq_zero.mp (Int.abs_lt_one_iff.mp (by exact_mod_cast apart))

theorem roundTo_of_zero (finite : x.isFinite = true) (zero : value x = 0) {digits : Int}
    (nonneg : 0 ≤ digits) : ∃ r, roundTo x digits = .ok (.number r) ∧ value r = 0 := by
  obtain ⟨-, same⟩ | ⟨ok, small, same⟩ := roundTo_cases x nonneg
  · exact ⟨x, same, zero⟩
  · obtain ⟨m, bound, finiteR, rounded, nearest⟩ := roundNudged_nearest ok small
    obtain ⟨-, okTen⟩ := isFinite_of_mul ok
    have product := rounds_mul finite okTen
    rw [zero, zero_mul] at product
    have scaled : value (x * powerOfTen digits.natAbs) = (0 : Int) := by
      rw [(product.exact representable_zero).2, Int.cast_zero]
    rw [isHalf_nextUp_iff ok scaled (by decide), scaled, nearest_intCast] at nearest
    have stays := nearest.mpr (by decide)
    subst stays
    obtain ⟨r, done, -, rounds⟩ := rounds_scaledBack finiteR rounded bound okTen
    rw [Int.cast_zero, zero_div] at rounds
    exact ⟨r, same.trans done, (rounds.exact representable_zero).2⟩

/-- An integer is scaled exactly or not at all. It comes back to its place just if the step of one
unit leaves the scaled integer where it is. -/
theorem roundTo_integer (finite : x.isFinite = true) (whole : value x = n) (fits : |n| < 2 ^ 53)
    {digits : Int} (nonneg : 0 ≤ digits) :
    ∃ r, roundTo x digits = .ok (.number r) ∧
      (value r = n ↔ ¬InHalves (n * 10 ^ digits.natAbs)) := by
  by_cases none : n = 0
  · subst none
    rw [Int.cast_zero] at whole
    obtain ⟨r, done, zero⟩ := roundTo_of_zero finite whole nonneg
    refine ⟨r, done, iff_of_true (zero.trans Int.cast_zero.symm) ?_⟩
    rw [zero_mul]
    exact fun halves => absurd halves.1 (by decide)
  obtain ⟨large, same⟩ | ⟨ok, small, same⟩ := roundTo_cases x nonneg
  · refine ⟨x, same, iff_of_true whole fun ⟨least, most⟩ => ?_⟩
    obtain ⟨ok, exact⟩ := value_scaled finite whole most (le_of_inHalves ⟨least, most⟩)
    have large := large ok
    rw [exact] at large
    exact most.not_ge (by exact_mod_cast large)
  · have below := abs_mul_lt_of_scaled finite whole none ok small
    have few := le_of_mul_ten_pow_lt none below
    obtain ⟨-, exact⟩ := value_scaled finite whole below few
    obtain ⟨m, bound, finiteR, rounded, nearest⟩ := roundNudged_nearest ok small
    rw [isHalf_nextUp_iff ok exact below, exact, nearest_intCast] at nearest
    obtain ⟨okTen, ten⟩ := (tenTo_powerOfTen digits.natAbs).exact (by omega)
    obtain ⟨r, done, finiteR, rounds⟩ := rounds_scaledBack finiteR rounded bound okTen
    rw [ten] at rounds
    have stays : ¬InHalves (n * 10 ^ digits.natAbs) ↔ n * 10 ^ digits.natAbs = m := by
      rw [nearest]
      exact not_congr (and_iff_left below)
    refine ⟨r, same.trans done, Iff.trans ⟨fun back => ?_, fun kept => ?_⟩ stays.symm⟩
    · exact eq_of_scaledBack finiteR rounds back few bound
    · have back : ((m : ℚ) / 10 ^ digits.natAbs) = n := by
        rw [← kept, Int.cast_mul, Int.cast_pow]
        exact mul_div_cancel_right₀ _ (by positivity)
      rw [back] at rounds
      exact (rounds.exact (representable_intCast fits)).2

end Integer

end Scaled

section Round

variable {v w : Value} {x : Float} (reads : v.toNumber = .ok x)

include reads

theorem round_omitted : round [v] = roundTo x 0 := by
  change (v.toNumber >>= fun x => roundTo x 0) = _
  rw [reads]
  rfl

theorem round_digits {digits : Int} (rest : List Value) (count : w.toInteger = .ok digits) :
    round (v :: w :: rest) = roundTo x (max (-308) (min 308 digits)) := by
  change (v.toNumber >>= fun x => w.toInteger >>= fun digits =>
    roundTo x (max (-308) (min 308 digits))) = _
  rw [reads, count]
  rfl

/-- Without digits a number goes to the nearest integer, except one below 2⁵² that is one unit short
of a half. To some digits an integer stays as it is, except one that is counted in halves when
scaled. -/
theorem round_iff (finite : x.isFinite = true) :
    (∀ rest : List Value, (∀ w ∈ rest.head?, w.toInteger = .ok 0) →
      ∃ (r : Float) (n : Int), round (v :: rest) = .ok (.number r) ∧ value r = n ∧
        (Nearest (value x) n ↔ 2 ^ (52 : Int) ≤ |value x| ∨ ¬IsHalf (value (nextUp x.abs)))) ∧
    ∀ (n digits : Int) (w : Value) (rest : List Value), value x = n → |n| < 2 ^ 53 →
      w.toInteger = .ok digits → 0 ≤ digits →
        ∃ r, round (v :: w :: rest) = .ok (.number r) ∧
          (value r = n ↔ ¬InHalves (n * 10 ^ digits.toNat)) := by
  constructor
  · intro rest zero
    obtain ⟨r, n, done, whole, nearest⟩ := roundTo_zero finite
    refine ⟨r, n, ?_, whole, nearest⟩
    cases rest with
    | nil => rw [round_omitted reads, done]
    | cons w rest =>
        rw [round_digits reads rest (zero w rfl)]
        exact done
  · intro n digits w rest whole fits count nonneg
    obtain ⟨r, done, stays⟩ := roundTo_integer finite whole fits
      (show 0 ≤ max (-308) (min 308 digits) by omega)
    refine ⟨r, by rw [round_digits reads rest count, done], stays.trans (not_congr ?_)⟩
    -- More than 308 digits are too many for either.
    constructor
    · intro halves
      have few := le_of_inHalves halves
      have same : (max (-308) (min 308 digits)).natAbs = digits.toNat := by omega
      rwa [same] at halves
    · intro halves
      have few := le_of_inHalves halves
      have same : (max (-308) (min 308 digits)).natAbs = digits.toNat := by omega
      rwa [same]

end Round

/-- ROUND(7) and ROUND(7, 2) -/
theorem round_iff_seven :
    (∃ (r : Float) (n : Int), round [.number 7] = .ok (.number r) ∧ value r = n ∧
      Nearest (value 7) n) ∧
    ∃ r, round [.number 7, .number 2] = .ok (.number r) ∧ value r = (7 : Int) := by
  have same : datum 7 = .finite false 7881299347898368 (-50) := by decide
  have finite := isFinite_iff_datum.mpr ⟨_, _, _, same⟩
  have seven : value 7 = (7 : Int) := by
    rw [value_of_datum same]
    norm_num [signed]
  have all := round_iff (v := .number 7) rfl finite
  have apart : ¬IsHalf (value (nextUp (Float.abs 7))) := by
    rw [isHalf_nextUp_iff finite seven (by decide)]
    decide
  constructor
  · obtain ⟨r, n, done, whole, nearest⟩ := all.1 [] (by simp)
    exact ⟨r, n, done, whole, nearest.mpr (.inr apart)⟩
  · obtain ⟨r, done, stays⟩ := all.2 7 2 (.number 2) [] seven (by decide) rfl (by decide)
    exact ⟨r, done, stays.mpr fun halves => absurd halves.1 (by decide)⟩

/-- An integer counted in halves goes to the next one. -/
theorem round_moves_integer :
    ¬∃ (r : Float) (n : Int), round [.number 2251799813685249] = .ok (.number r) ∧ value r = n ∧
      Nearest (value 2251799813685249) n := by
  have same : datum 2251799813685249 = .finite false 4503599627370498 (-1) := by decide
  have finite := isFinite_iff_datum.mpr ⟨_, _, _, same⟩
  have whole : value 2251799813685249 = (2251799813685249 : Int) := by
    rw [value_of_datum same]
    norm_num [signed]
  rintro ⟨r, n, done, exact, near⟩
  obtain ⟨r', n', done', exact', nearest⟩ := roundTo_zero finite
  rw [round_omitted (v := .number 2251799813685249) rfl, done'] at done
  cases done
  have equal : n' = n := by exact_mod_cast exact'.symm.trans exact
  subst equal
  rcases nearest.mp near with large | apart
  · rw [whole] at large
    norm_num at large
  · refine apart ((isHalf_nextUp_iff finite whole (by decide)).mpr ?_)
    decide

end Spreadsheet.Rounding
