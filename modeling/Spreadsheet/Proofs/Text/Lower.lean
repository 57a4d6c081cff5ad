import Spreadsheet.Proofs.Text.Case
import Spreadsheet.Text.Case

namespace Spreadsheet.Text

/-- Blanks, signs, points, digits and the marks of a power of ten. -/
def numeralRanges : CodeRanges :=
  blankRanges ++ [(0x2B, 0x2B), (0x2D, 0x2E), (0x30, 0x39), (0x45, 0x45), (0x65, 0x65)]

/-- No mapping beyond ASCII starts or ends at such a character. -/
theorem lowerRuns_apart : ∀ run ∈ lowerRuns, ∀ range ∈ numeralRanges,
    (range.2 < run.first ∨ run.last < range.1) ∧
      ((range.2 : Int) < run.first + run.shift ∨ run.last + run.shift < range.1) := by
  decide +kernel

theorem CodeRanges.contains_iff {ranges : CodeRanges} {c : Char} :
    ranges.contains c = true ↔ ∃ range ∈ ranges, range.1 ≤ c.toNat ∧ c.toNat ≤ range.2 := by
  simp only [CodeRanges.contains, List.any_eq_true, Bool.and_eq_true, decide_eq_true_eq]

theorem covers_between {run : CaseRun} {code : Nat} (covers : run.covers code = true) :
    run.first ≤ code ∧ code ≤ run.last := by
  simp only [CaseRun.covers, Bool.and_eq_true, decide_eq_true_eq] at covers
  exact covers.1

theorem toNat_ofNat_of_pos {n : Nat} (positive : 0 < (Char.ofNat n).toNat) :
    (Char.ofNat n).toNat = n := by
  unfold Char.ofNat at positive ⊢
  split at positive
  next valid => rw [dif_pos valid]; rfl
  next => cases positive

theorem numeralRanges_pos {c : Char} (spelt : numeralRanges.contains c = true) : 0 < c.toNat := by
  obtain ⟨range, listed, low, -⟩ := CodeRanges.contains_iff.mp spelt
  have positive : ∀ range ∈ numeralRanges, 0 < range.1 := by decide
  exact (positive range listed).trans_le low

/-- Such a character is mapped to itself, and no other is mapped to it. -/
theorem apply_lowerRuns {c : Char} (spelt : numeralRanges.contains c = true ∨
    numeralRanges.contains (CaseRun.apply lowerRuns c) = true) : CaseRun.apply lowerRuns c = c := by
  unfold CaseRun.apply at spelt ⊢
  split at spelt
  next run found =>
    have apart := lowerRuns_apart run (List.mem_of_find?_eq_some found)
    have covers : run.covers c.toNat = true :=
      List.find?_some (p := fun run : CaseRun => run.covers c.toNat) found
    obtain ⟨low, high⟩ := covers_between covers
    obtain spelt | spelt := spelt
    · obtain ⟨range, listed, above, below⟩ := CodeRanges.contains_iff.mp spelt
      have outside := (apart range listed).1
      omega
    · have positive := numeralRanges_pos spelt
      have exact := toNat_ofNat_of_pos positive
      obtain ⟨range, listed, above, below⟩ := CodeRanges.contains_iff.mp spelt
      have outside := (apart range listed).2
      rw [exact] at above below positive
      omega
  next none => rfl

theorem toLower_of_not_ascii {c : Char} (beyond : ¬ c.toNat < 0x80) : c.toLower = c := by
  refine dif_neg fun upper => ?_
  have high : c.toNat ≤ 90 := UInt32.le_iff_toNat_le.mp upper.2
  omega

/-- Lower case is that of ASCII on both sides of the class. -/
theorem lowerChar_eq {c : Char} (spelt : numeralRanges.contains c = true ∨
    ∀ d ∈ lowerChar c, numeralRanges.contains d = true) : lowerChar c = [c.toLower] := by
  unfold lowerChar at spelt ⊢
  split at spelt
  next ascii => rw [if_pos ascii]
  next beyond =>
    rw [if_neg beyond, toLower_of_not_ascii beyond]
    split at spelt
    next dotted =>
      obtain spelt | spelt := spelt
      · rw [← Char.ofNat_toNat c, dotted] at spelt
        exact absurd spelt (by decide)
      · exact absurd (spelt 'i' List.mem_cons_self) (by decide)
    next undotted =>
      rw [List.forall_mem_singleton] at spelt
      rw [if_neg undotted, apply_lowerRuns spelt]

theorem toLower_spelt {c : Char} (spelt : numeralRanges.contains c = true) :
    numeralRanges.contains c.toLower = true := by
  by_cases upper : c.isUpper = true
  · have letters : ∀ n < 91, 65 ≤ n → numeralRanges.contains (.ofNat n) = true →
        numeralRanges.contains (Char.ofNat n).toLower = true := by decide
    obtain ⟨low, high⟩ : 'A'.val ≤ c.val ∧ c.val ≤ 'Z'.val := of_decide_eq_true upper
    have low : 65 ≤ c.toNat := UInt32.le_iff_toNat_le.mp low
    have high : c.toNat ≤ 90 := UInt32.le_iff_toNat_le.mp high
    rw [← Char.ofNat_toNat c] at spelt ⊢
    exact letters c.toNat (by omega) low spelt
  · rwa [Char.toLower_eq_of_not_isUpper upper]

theorem lowerAfter_of_spelt {s : List Char} (spelt : ∀ c ∈ s, numeralRanges.contains c = true)
    (before : List Char) : lowerAfter before s = s.map Char.toLower := by
  induction s generalizing before with
  | nil => rfl
  | cons c s ih =>
      obtain ⟨first, others⟩ := List.forall_mem_cons.mp spelt
      have plain : c.toNat ≠ 0x3A3 := by
        intro sigma
        rw [← Char.ofNat_toNat c, sigma] at first
        exact absurd first (by decide)
      unfold lowerAfter
      rw [if_neg plain, lowerChar_eq (.inl first), ih others]
      rfl

theorem lowerAfter_to_spelt {before s : List Char}
    (spelt : ∀ c ∈ lowerAfter before s, numeralRanges.contains c = true) :
    lowerAfter before s = s.map Char.toLower := by
  induction s generalizing before with
  | nil => rfl
  | cons c s ih =>
      unfold lowerAfter at spelt ⊢
      obtain ⟨first, others⟩ := List.forall_mem_append.mp spelt
      have plain : c.toNat ≠ 0x3A3 := by
        intro sigma
        rw [if_pos sigma, List.forall_mem_singleton] at first
        revert first
        split <;> decide
      rw [if_neg plain] at first ⊢
      rw [lowerChar_eq (.inr first), ih others]
      rfl

theorem lowerChar_ne_nil (c : Char) : lowerChar c ≠ [] := by
  unfold lowerChar
  split
  next => exact List.cons_ne_nil _ _
  next => split <;> exact List.cons_ne_nil _ _

theorem eq_nil_of_lower_eq_nil {s : List Char} (none : lower s = []) : s = [] := by
  cases s with
  | nil => rfl
  | cons c s =>
      have first := (List.append_eq_nil_iff.mp none).1
      split at first
      next => cases first
      next => exact absurd first (lowerChar_ne_nil c)

/-- Nothing but a text that is spelt like a number has the lower case of one. -/
theorem upperAscii_eq_of_lower_eq {s t : List Char}
    (spelt : ∀ c ∈ s, numeralRanges.contains c = true) (same : lower s = lower t) :
    upperAscii s = upperAscii t := by
  have ofS : lower s = s.map Char.toLower := lowerAfter_of_spelt spelt []
  have ofT : lower t = t.map Char.toLower := by
    refine lowerAfter_to_spelt ?_
    change ∀ c ∈ lower t, _
    rw [← same, ofS]
    exact List.forall_mem_map.mpr fun c member => toLower_spelt (spelt c member)
  have back (u : List Char) : (u.map Char.toLower).map Char.toUpper = upperAscii u := by
    rw [List.map_map]
    exact List.map_congr_left fun c _ => Char.toUpper_toLower_eq_toUpper c
  rw [← back s, ← ofS, same, ofT, back t]

end Spreadsheet.Text
