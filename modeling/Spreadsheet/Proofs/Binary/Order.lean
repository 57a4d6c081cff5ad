import Spreadsheet.Proofs.Binary.Arithmetic

namespace Spreadsheet.Binary

open Float.Model Float.Model.UnpackedFloat

/-- The values of finite numbers with the infinities at both ends. -/
def extended (x : Float) : WithBot (WithTop ℚ) :=
  match datum x with
  | .infinite negative => if negative then ⊥ else ⊤
  | _ => ((value x : WithTop ℚ) : WithBot (WithTop ℚ))

theorem extended_cases {x : Float} (isNumber : x.isNaN = false) :
    (x.isFinite = true ∧ extended x = ((value x : WithTop ℚ) : WithBot (WithTop ℚ))) ∨
      (x.toModel.unpack = .infinity .negative ∧ extended x = ⊥) ∨
      x.toModel.unpack = .infinity .positive ∧ extended x = ⊤ := by
  change x.toModel.unpack.isNaN = false at isNumber
  have decoded := datum_eq x
  unfold extended
  change (x.toModel.unpack.isFinite = true ∧ _) ∨ _
  cases unpacked : x.toModel.unpack with
  | notANumber => rw [unpacked] at isNumber; cases isNumber
  | infinity sign =>
      rw [unpacked] at decoded
      rw [decoded]
      cases sign with
      | negative => exact .inr (.inl ⟨rfl, rfl⟩)
      | positive => exact .inr (.inr ⟨rfl, rfl⟩)
  | zero sign =>
      rw [unpacked] at decoded
      rw [decoded]
      exact .inl ⟨rfl, rfl⟩
  | finite sign mantissa exponent positive =>
      rw [unpacked] at decoded
      rw [decoded]
      exact .inl ⟨rfl, rfl⟩

theorem compare_infinity {u : UnpackedFloat} (finite : u.isFinite = true) :
    u.compare (.infinity .positive) = some .lt ∧ u.compare (.infinity .negative) = some .gt ∧
      (infinity .positive).compare u = some .gt ∧ (infinity .negative).compare u = some .lt := by
  cases u with
  | notANumber | infinity => cases finite
  | zero => exact ⟨rfl, rfl, rfl, rfl⟩
  | finite sign => cases sign <;> exact ⟨rfl, rfl, rfl, rfl⟩

theorem compare_coe (a b : ℚ) :
    compare ((a : WithTop ℚ) : WithBot (WithTop ℚ)) ((b : WithTop ℚ) : WithBot (WithTop ℚ)) =
      compare a b := by
  have mono : StrictMono fun q : ℚ => ((q : WithTop ℚ) : WithBot (WithTop ℚ)) :=
    WithBot.coe_strictMono.comp WithTop.coe_strictMono
  rw [← cmp_eq_compare, ← cmp_eq_compare]
  exact mono.cmp_map_eq a b

/-- Numbers compare like their extended values. -/
theorem compare_extended {x z : Float} (isNumber : x.isNaN = false) (isNumber' : z.isNaN = false) :
    x.toModel.unpack.compare z.toModel.unpack = some (compare (extended x) (extended z)) := by
  have below (q : ℚ) : (⊥ : WithBot (WithTop ℚ)) < (q : WithTop ℚ) := WithBot.bot_lt_coe _
  have above (q : ℚ) : ((q : WithTop ℚ) : WithBot (WithTop ℚ)) < ⊤ :=
    WithBot.coe_lt_coe.mpr (WithTop.coe_lt_top q)
  obtain ⟨finite, exact⟩ | ⟨least, exact⟩ | ⟨greatest, exact⟩ := extended_cases isNumber <;>
    obtain ⟨finite', exact'⟩ | ⟨least', exact'⟩ | ⟨greatest', exact'⟩ := extended_cases isNumber'
  · rw [compare_unpack finite finite', exact, exact', compare_coe]
  · rw [least', exact, exact', (compare_infinity finite).2.1, compare_gt_iff_gt.mpr (below _)]
  · rw [greatest', exact, exact', (compare_infinity finite).1, compare_lt_iff_lt.mpr (above _)]
  · rw [least, exact, exact', (compare_infinity finite').2.2.2, compare_lt_iff_lt.mpr (below _)]
  · rw [least, least', exact, exact', compare_eq_iff_eq.mpr rfl]
    rfl
  · rw [least, greatest', exact, exact', compare_lt_iff_lt.mpr bot_lt_top]
    rfl
  · rw [greatest, exact, exact', (compare_infinity finite').2.2.1, compare_gt_iff_gt.mpr (above _)]
  · rw [greatest, least', exact, exact', compare_gt_iff_gt.mpr bot_lt_top]
    rfl
  · rw [greatest, greatest', exact, exact', compare_eq_iff_eq.mpr rfl]
    rfl

theorem unpack_of_isNaN {x : Float} (none : x.isNaN = true) :
    x.toModel.unpack = .notANumber := by
  change x.toModel.unpack.isNaN = true at none
  cases unpacked : x.toModel.unpack with
  | notANumber => rfl
  | infinity | zero | finite => rw [unpacked] at none; cases none

/-- Only two numbers have an order. -/
theorem compare_eq_some_iff {x z : Float} {order : Ordering} :
    x.toModel.unpack.compare z.toModel.unpack = some order ↔
      x.isNaN = false ∧ z.isNaN = false ∧ compare (extended x) (extended z) = order := by
  cases isNumber : x.isNaN with
  | true =>
      rw [unpack_of_isNaN isNumber]
      exact iff_of_false nofun nofun
  | false =>
      cases isNumber' : z.isNaN with
      | true =>
          rw [unpack_of_isNaN isNumber']
          refine iff_of_false ?_ nofun
          cases x.toModel.unpack <;> exact nofun
      | false =>
          rw [compare_extended isNumber isNumber', Option.some_inj]
          exact ⟨fun same => ⟨rfl, rfl, same⟩, fun both => both.2.2⟩

theorem lt_iff_extended {x z : Float} :
    x < z ↔ x.isNaN = false ∧ z.isNaN = false ∧ extended x < extended z := by
  change (decide ((x.toModel.unpack.compare z.toModel.unpack == some .lt) = true)) = true ↔ _
  rw [decide_eq_true_eq, beq_iff_eq, compare_eq_some_iff, compare_lt_iff_lt]

theorem le_iff_extended {x z : Float} :
    x ≤ z ↔ x.isNaN = false ∧ z.isNaN = false ∧ extended x ≤ extended z := by
  change (decide ((x.toModel.unpack.compare z.toModel.unpack).any (·.isLE) = true)) = true ↔ _
  rw [decide_eq_true_eq, Option.any_eq_true]
  constructor
  · rintro ⟨order, compared, le⟩
    obtain ⟨isNumber, isNumber', same⟩ := compare_eq_some_iff.mp compared
    rw [← same] at le
    exact ⟨isNumber, isNumber', compare_le_iff_le.mp (Ordering.isLE_iff_ne_gt.mp le)⟩
  · rintro ⟨isNumber, isNumber', le⟩
    exact ⟨_, compare_extended isNumber isNumber',
      Ordering.isLE_iff_ne_gt.mpr (compare_le_iff_le.mpr le)⟩

theorem beq_iff_extended {x z : Float} :
    (x == z) = true ↔ x.isNaN = false ∧ z.isNaN = false ∧ extended x = extended z := by
  change (x.toModel.unpack.compare z.toModel.unpack == some .eq) = true ↔ _
  rw [beq_iff_eq, compare_eq_some_iff, compare_eq_iff_eq]

end Spreadsheet.Binary
