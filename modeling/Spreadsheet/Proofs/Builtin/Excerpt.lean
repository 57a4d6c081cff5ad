import Spreadsheet.Evaluation
import Spreadsheet.Proofs.Binary.Truncation
import Spreadsheet.Proofs.Value.Count
import Spreadsheet.Proofs.Value.WellFormed

namespace Spreadsheet.Excerpt

open Spreadsheet.Binary
open Spreadsheet.Formula (BinaryOp)

/-- How many of so many characters a count takes: those of its whole part, or all if it is
infinite. -/
def characters (x : Float) (length : Nat) : Nat :=
  if x.isFinite then min ⌊value x⌋₊ length else length

section Count

variable {count : Value} {x : Float} (reads : count.number? = some x)

include reads

theorem toInteger_of_reads : count.toInteger = .ok (truncate x) := by
  unfold Value.toInteger
  rw [Value.toNumber_of_reads reads]
  rfl

theorem countArgument_of_gt (above : -1 < x) {function : Strict} {args : List Value} {index : Nat}
    (given : args[index]? = some count) :
    countArgument function args index = .ok (truncate x).toNat := by
  have nonneg : ¬ truncate x < 0 := by
    rcases truncate_of_gt above with ⟨-, whole⟩ | ⟨-, whole⟩ <;> omega
  unfold countArgument
  rw [given]
  dsimp only
  rw [toInteger_of_reads reads]
  exact if_neg nonneg

theorem countArgument_of_le (below : x ≤ -1) {function : Strict} {args : List Value} {index : Nat}
    (given : args[index]? = some count) :
    countArgument function args index =
      .error (.type (.negativeCount function.name (truncate x))) := by
  unfold countArgument
  rw [given]
  dsimp only
  rw [toInteger_of_reads reads]
  exact if_pos (truncate_of_le below)

end Count

/-- What 64 bits hold is enough for a text of less characters. -/
theorem min_truncate {x : Float} (above : -1 < x) {length : Nat} (short : length < 2 ^ 63) :
    min (truncate x).toNat length = characters x length := by
  unfold characters
  rcases truncate_of_gt above with ⟨finite, whole⟩ | ⟨infinite, whole⟩
  · rw [if_pos finite]
    omega
  · rw [if_neg (ne_true_of_eq_false infinite)]
    omega

theorem min_characters (x : Float) {part length : Nat} (le : part ≤ length) :
    min (characters x length) part = characters x part := by
  unfold characters
  split <;> omega

/-- A count of whole characters, whatever value it is read from. -/
theorem exists_characters {count : Value} {k : Nat} (reads : count.ReadsAs k) :
    ∃ x, count.number? = some x ∧ -1 < x ∧ ∀ length, characters x length = min k length := by
  obtain ⟨x, number, finite, exact⟩ := reads
  refine ⟨x, number, ?_, fun length => ?_⟩
  · rw [lt_iff (by decide) finite, value_neg_one, exact]
    linarith [(Nat.cast_nonneg k : (0 : ℚ) ≤ k)]
  · unfold characters
    rw [if_pos finite, exact, Nat.floor_natCast]

theorem apply_left (s : String) (count : Value) : Strict.left.apply [.text s, count] = do
    let n ← countArgument .left [.text s, count] 1
    return ofChars (takeLeft s.toList n) := rfl

theorem apply_right (s : String) (count : Value) : Strict.right.apply [.text s, count] = do
    let n ← countArgument .right [.text s, count] 1
    return ofChars (takeRight s.toList n) := rfl

/-- From any place behind the end on nothing is left. -/
theorem takeMiddle_eq {s : List Char} {start place : Nat}
    (same : min start (s.length + 1) = min place (s.length + 1)) (n : Nat) :
    takeMiddle s start n = (s.drop (place - 1)).take n := by
  unfold takeMiddle
  by_cases inside : place ≤ s.length
  · rw [show start = place by omega]
  · rw [List.drop_of_length_le (by omega), List.drop_of_length_le (by omega)]

section Parts

variable {s : String} (short : s.length < 2 ^ 53)

include short

theorem apply_mid {start : Value} {i : Nat} (place : start.ReadsAs i) (positive : 1 ≤ i)
    (count : Value) : Strict.mid.apply [.text s, start, count] = do
      let n ← countArgument .mid [.text s, start, count] 2
      return ofChars ((s.toList.drop (i - 1)).take n) := by
  obtain ⟨y, reads, finite, exact⟩ := place
  have place : truncate y = min 9223372036854775807 (i : Int) := by
    rw [truncate_of_value_gt finite (by linarith [(Nat.cast_nonneg i : (0 : ℚ) ≤ i)]), exact,
      Nat.floor_natCast]
  have length : s.toList.length = s.length := String.length_toList
  change (do
    let start ← start.toInteger
    if start < 1 then throw (FormulaError.invalidReference (.startBelowOne start))
    let n ← countArgument .mid [.text s, _, count] 2
    return ofChars (takeMiddle s.toList start.toNat n)) = _
  rw [toInteger_of_reads reads, place]
  refine (if_neg (by omega)).trans (bind_congr fun n => ?_)
  rw [show takeMiddle s.toList _ n = (s.toList.drop (i - 1)).take n from
    takeMiddle_eq (by omega) n]

variable {count : Value} {x : Float} (reads : count.number? = some x) (above : -1 < x)

include reads above

theorem left_eq : Strict.left.apply [.text s, count] =
    .ok (ofChars (s.toList.take (characters x s.length))) := by
  have takes : countArgument .left [.text s, count] 1 = _ := countArgument_of_gt reads above rfl
  rw [apply_left, takes, ← min_truncate above (short.trans (by decide))]
  change Except.ok (ofChars (s.toList.take _)) = _
  rw [List.take_eq_take_min, String.length_toList]

theorem right_eq : Strict.right.apply [.text s, count] =
    .ok (ofChars (s.toList.drop (s.length - characters x s.length))) := by
  have takes : countArgument .right [.text s, count] 1 = _ := countArgument_of_gt reads above rfl
  rw [apply_right, takes, ← min_truncate above (short.trans (by decide))]
  change Except.ok (ofChars (s.toList.drop (s.toList.length - _))) = _
  rw [String.length_toList, Nat.min_comm, tsub_min]

theorem mid_eq {start : Value} {i : Nat} (place : start.ReadsAs i) (positive : 1 ≤ i) :
    Strict.mid.apply [.text s, start, count] =
      .ok (ofChars ((s.toList.drop (i - 1)).take (characters x s.length))) := by
  have takes : countArgument .mid [.text s, start, count] 2 = _ :=
    countArgument_of_gt reads above rfl
  rw [apply_mid short place positive, takes, ← min_truncate above (short.trans (by decide))]
  change Except.ok (ofChars ((s.toList.drop _).take _)) = _
  rw [List.take_eq_take_iff.mpr]
  rw [List.length_drop, String.length_toList]
  omega

end Parts

/-- How the parts of a text fit together. -/
structure Cuts (s : String) : Prop where
  len : ∃ m, Strict.len.apply [.text s] = .ok m ∧ m.ReadsAs s.length
  halves {k : Nat} (inside : k ≤ s.length) {front back : Value} (first : front.ReadsAs k)
    (others : back.ReadsAs (s.length - k : Nat)) :
    (do
      BinaryOp.concat.apply (← Strict.left.apply [.text s, front])
        (← Strict.right.apply [.text s, back])) = .ok (.text s)
  start {k : Nat} {one count : Value} (first : one.ReadsAs 1) (reads : count.ReadsAs k) :
    Strict.mid.apply [.text s, one, count] = Strict.left.apply [.text s, count]
  middle {i : Nat} (positive : 1 ≤ i) (inside : i ≤ s.length + 1) {start behind count : Value}
    {x : Float} (place : start.ReadsAs i) (others : behind.ReadsAs (s.length + 1 - i : Nat))
    (reads : count.number? = some x) (above : -1 < x) :
    Strict.mid.apply [.text s, start, count] = do
      Strict.left.apply [← Strict.right.apply [.text s, behind], count]
  beyond {i : Nat} (outside : s.length < i) {start count : Value} {x : Float}
    (place : start.ReadsAs i) (reads : count.number? = some x) (above : -1 < x) :
    Strict.mid.apply [.text s, start, count] = .ok (.text "")
  lengths {count : Value} {x : Float} (reads : count.number? = some x) (above : -1 < x) :
    ∃ m, (do Strict.len.apply [← Strict.left.apply [.text s, count]]) = .ok m ∧
      (do Strict.len.apply [← Strict.right.apply [.text s, count]]) = .ok m ∧
      m.ReadsAs (characters x s.length)
  negative {count : Value} {x : Float} (reads : count.number? = some x) (below : x ≤ -1) :
    Strict.left.apply [.text s, count] = .error (.type (.negativeCount "LEFT" (truncate x))) ∧
      Strict.right.apply [.text s, count] =
        .error (.type (.negativeCount "RIGHT" (truncate x))) ∧
      ∀ {start : Value} {i : Nat}, start.ReadsAs i → 1 ≤ i →
        Strict.mid.apply [.text s, start, count] =
          .error (.type (.negativeCount "MID" (truncate x)))

/-- All parts are taken by characters, of which counts of any size take those that are there. -/
theorem cuts_coherent {s : String} (short : s.length < 2 ^ 53) : Cuts s where
  len := by
    refine ⟨_, rfl, ?_⟩
    rw [String.length_toList]
    exact Value.readsAs_ofCount short.le
  halves {k} inside {front back} first others := by
    obtain ⟨x, reads, above, same⟩ := exists_characters first
    obtain ⟨y, reads', above', same'⟩ := exists_characters others
    rw [left_eq short reads above, right_eq short reads' above', same, same',
      Nat.min_eq_left inside, show s.length - min (s.length - k) s.length = k by omega]
    change Except.ok (Value.text (.ofList _ ++ .ofList _)) = _
    rw [← String.ofList_append, List.take_append_drop, String.ofList_toList]
  start {k one count} first reads := by
    obtain ⟨x, reads, above, -⟩ := exists_characters reads
    have first : one.ReadsAs (1 : Nat) := by exact_mod_cast first
    rw [left_eq short reads above, mid_eq short reads above first le_rfl]
    rfl
  middle {i} positive inside {start behind count x} place others reads above := by
    obtain ⟨y, reads', above', same⟩ := exists_characters others
    have behind : s.length - min (s.length + 1 - i) s.length = i - 1 := by omega
    have part : (String.ofList (s.toList.drop (i - 1))).length ≤ s.length := by
      rw [String.length_ofList, List.length_drop, String.length_toList]
      omega
    rw [mid_eq short reads above place positive, right_eq short reads' above', same, behind]
    change _ = Strict.left.apply [.text (.ofList _), count]
    rw [left_eq (part.trans_lt short) reads above, String.toList_ofList,
      ← min_characters x part, String.length_ofList, ← List.take_eq_take_min]
  beyond {i} outside {start count x} place reads above := by
    have none : s.toList.drop (i - 1) = [] := by
      refine List.drop_of_length_le ?_
      rw [String.length_toList]
      omega
    rw [mid_eq short reads above place (Nat.one_le_of_lt outside), none, List.take_nil]
    rfl
  lengths {count x} reads above := by
    have inside : characters x s.length ≤ s.length := by
      rw [← min_characters x le_rfl]
      exact Nat.min_le_right ..
    have measured (part : List Char) (exact : part.length = characters x s.length) :
        Strict.len.apply [ofChars part] =
          .ok (.number (Value.ofCount (characters x s.length))) := by
      change Except.ok (Value.number (Value.ofCount (String.ofList part).toList.length)) = _
      rw [String.toList_ofList, exact]
    rw [left_eq short reads above, right_eq short reads above]
    refine ⟨_, measured _ ?_, measured _ ?_, Value.readsAs_ofCount (inside.trans short.le)⟩
    · rw [List.length_take, String.length_toList]
      omega
    · rw [List.length_drop, String.length_toList]
      omega
  negative {count x} reads below := by
    have left : countArgument .left [.text s, count] 1 = _ := countArgument_of_le reads below rfl
    have right : countArgument .right [.text s, count] 1 = _ := countArgument_of_le reads below rfl
    refine ⟨?_, ?_, fun {start i} place positive => ?_⟩
    · rw [apply_left, left]
      rfl
    · rw [apply_right, right]
      rfl
    · have mid : countArgument .mid [.text s, start, count] 2 = _ :=
        countArgument_of_le reads below rfl
      rw [apply_mid short place positive, mid]
      rfl

theorem cuts_coherent_accented : "héllo".length < 2 ^ 53 ∧
    (do
      BinaryOp.concat.apply (← Strict.left.apply [.text "héllo", .number (Value.ofCount 2)])
        (← Strict.right.apply [.text "héllo", .number (Value.ofCount 3)])) =
      .ok (.text "héllo") ∧
    Strict.mid.apply [.text "héllo", .number (Value.ofCount 2), .boolean true] =
      (do
        Strict.left.apply
          [← Strict.right.apply [.text "héllo", .number (Value.ofCount 4)], .boolean true]) ∧
    (∃ m, (do Strict.len.apply [← Strict.left.apply [.text "héllo", .number 1e20]]) = .ok m ∧
      (do Strict.len.apply [← Strict.right.apply [.text "héllo", .number 1e20]]) = .ok m ∧
      m.ReadsAs (characters 1e20 5)) ∧
    Strict.left.apply [.text "héllo", .number (-1)] =
      .error (.type (.negativeCount "LEFT" (truncate (-1)))) := by
  have short : "héllo".length < 2 ^ 53 := by decide
  have cuts : Cuts "héllo" := cuts_coherent short
  have exact {n : Nat} (small : n ≤ 5) : Value.ReadsAs (.number (Value.ofCount n)) n :=
    Value.readsAs_ofCount (small.trans (by decide))
  refine ⟨short, cuts.halves (k := 2) (by decide) (exact (by decide)) (exact (by decide)), ?_,
    cuts.lengths rfl (by decide), (cuts.negative rfl (by decide)).1⟩
  exact cuts.middle (i := 2) (by decide) (by decide) (exact (by decide)) (exact (by decide)) rfl
    (by decide)

end Spreadsheet.Excerpt
