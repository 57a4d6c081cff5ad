import Spreadsheet.Proofs.Builtin.Lookup

/-! Approximate look-ups: where the search ends, and what it finds among keys in order. -/

namespace Spreadsheet.Lookup

/-- The keys of the kind of the value. -/
def kindred (keys : List Value) (value : Value) : List Value := keys.filter (comparable · value)

/-- Places of the kindred keys that stand before the first of them that is greater. -/
def beforeGreater (keys : List Value) (value : Value) : Set Nat :=
  {i | (∃ key, keys[i]? = some key ∧ comparable key value = true) ∧
    ∀ j ≤ i, ∀ key, keys[j]? = some key → comparable key value = true →
      Value.compare key value ≠ .gt}

/-- Places of the kindred keys that are not greater. -/
def notGreater (keys : List Value) (value : Value) : Set Nat :=
  {i | ∃ key, keys[i]? = some key ∧ comparable key value = true ∧ Value.compare key value ≠ .gt}

section Search

variable {key value : Value} {keys : List Value} {i : Nat}

theorem zero_mem_beforeGreater :
    0 ∈ beforeGreater (key :: keys) value ↔
      comparable key value = true ∧ Value.compare key value ≠ .gt := by
  simp only [beforeGreater, Set.mem_ofPred_eq, Nat.le_zero_eq, forall_eq, List.getElem?_cons_zero,
    Option.some_inj, exists_eq_left', forall_eq']
  exact and_congr_right fun kind => forall_prop_of_true kind

theorem succ_mem_beforeGreater :
    i + 1 ∈ beforeGreater (key :: keys) value ↔
      (comparable key value = true → Value.compare key value ≠ .gt) ∧
        i ∈ beforeGreater keys value := by
  simp only [beforeGreater, Set.mem_ofPred_eq, List.getElem?_cons_succ]
  constructor
  · rintro ⟨there, bounds⟩
    exact ⟨bounds 0 (Nat.zero_le _) key rfl, there, fun j below => bounds (j + 1) (by omega)⟩
  · rintro ⟨first, there, bounds⟩
    refine ⟨there, fun j below => ?_⟩
    cases j with
    | zero =>
        rintro _ ⟨⟩
        exact first
    | succ j => exact bounds j (by omega)

theorem isGreatest_succ (first : comparable key value = true → Value.compare key value ≠ .gt)
    (greatest : IsGreatest (beforeGreater keys value) i) :
    IsGreatest (beforeGreater (key :: keys) value) (i + 1) := by
  refine ⟨succ_mem_beforeGreater.mpr ⟨first, greatest.1⟩, ?_⟩
  intro j member
  cases j with
  | zero => exact Nat.zero_le _
  | succ j => exact Nat.succ_le_succ (greatest.2 (succ_mem_beforeGreater.mp member).2)

/-- The search ends at the last place before a greater key, and as it began if there is none. -/
theorem findApproximateFrom_spec (value : Value) (keys : List Value) (index : Nat)
    (found : Option Nat) :
    (∃ place, IsGreatest (beforeGreater keys value) place ∧
        findApproximateFrom value index found keys = some (index + place)) ∨
      beforeGreater keys value = ∅ ∧ findApproximateFrom value index found keys = found := by
  induction keys generalizing index found with
  | nil =>
      refine .inr ⟨Set.eq_empty_iff_forall_notMem.mpr ?_, rfl⟩
      rintro i ⟨⟨_, ⟨⟩, _⟩, _⟩
  | cons key keys ih =>
      unfold findApproximateFrom
      by_cases kind : comparable key value = true
      · rw [if_pos kind]
        by_cases greater : Value.compare key value = .gt
        · rw [if_pos greater]
          refine .inr ⟨Set.eq_empty_iff_forall_notMem.mpr fun i member => ?_, rfl⟩
          exact member.2 0 (Nat.zero_le i) key rfl kind greater
        · rw [if_neg greater]
          obtain ⟨place, greatest, ends⟩ | ⟨none, ends⟩ := ih (index + 1) (some index)
          · refine .inl ⟨place + 1, isGreatest_succ (fun _ => greater) greatest, ends.trans ?_⟩
            rw [Nat.add_assoc, Nat.add_comm 1]
          · refine .inl ⟨0, ⟨zero_mem_beforeGreater.mpr ⟨kind, greater⟩, ?_⟩, ends⟩
            intro i member
            cases i with
            | zero => exact Nat.le_refl 0
            | succ i =>
                have later := (succ_mem_beforeGreater.mp member).2
                rw [none] at later
                exact later.elim
      · rw [if_neg kind]
        obtain ⟨place, greatest, ends⟩ | ⟨none, ends⟩ := ih (index + 1) found
        · refine .inl ⟨place + 1, isGreatest_succ (absurd · kind) greatest, ends.trans ?_⟩
          rw [Nat.add_assoc, Nat.add_comm 1]
        · refine .inr ⟨Set.eq_empty_iff_forall_notMem.mpr fun i member => ?_, ends⟩
          cases i with
          | zero => exact kind (zero_mem_beforeGreater.mp member).1
          | succ i =>
              have later := (succ_mem_beforeGreater.mp member).2
              rw [none] at later
              exact later

end Search

theorem findApproximate_of_isGreatest {keys : List Value} {value : Value} {place : Nat}
    (greatest : IsGreatest (beforeGreater keys value) place) :
    findApproximate keys value = some place := by
  obtain ⟨last, isLast, ends⟩ | ⟨none, -⟩ := findApproximateFrom_spec value keys 0 none
  · obtain rfl := greatest.unique isLast
    rwa [Nat.zero_add] at ends
  · exact absurd greatest.1 (none ▸ Set.notMem_empty place)

section Answer

variable {direction : Direction} {rows : List (List Value)} {value : Value}

theorem answer_of_isGreatest {place : Nat}
    (greatest : IsGreatest (beforeGreater (keys direction rows) value) place) (line : Nat) :
    answer direction rows value true line = .ok (result direction rows place line) := by
  unfold answer find
  rw [if_pos rfl, findApproximate_of_isGreatest greatest]

theorem answer_eq_error_iff (line : Nat) :
    answer direction rows value true line = .error (.notAvailable direction.function.name value) ↔
      beforeGreater (keys direction rows) value = ∅ := by
  constructor
  · intro fails
    obtain ⟨place, greatest, -⟩ | ⟨none, -⟩ :=
      findApproximateFrom_spec value (keys direction rows) 0 none
    · rw [answer_of_isGreatest greatest line] at fails
      cases fails
    · exact none
  · intro none
    obtain ⟨place, greatest, -⟩ | ⟨-, ends⟩ :=
      findApproximateFrom_spec value (keys direction rows) 0 Option.none
    · exact absurd greatest.1 (none ▸ Set.notMem_empty place)
    · unfold answer find findApproximate
      rw [if_pos rfl, ends]

end Answer

section Kinds

variable {key value : Value}

theorem comparable_comm (key value : Value) : comparable key value = comparable value key := by
  cases key <;> cases value <;> rfl

/-- What can be compared is neither empty nor an array. -/
theorem sortable_of_comparable (kind : comparable key value = true)
    (isNumber : key.isNaN = false) : key.Sortable := by
  cases key with
  | number | text | boolean => exact ⟨rfl, rfl, isNumber⟩
  | array | empty => cases kind

theorem sortable_of_comparable_right (kind : comparable key value = true)
    (isNumber : value.isNaN = false) : value.Sortable :=
  sortable_of_comparable (comparable_comm key value ▸ kind) isNumber

end Kinds

section Order

variable {keys : List Value} {value : Value}

theorem mem_kindred {key : Value} :
    key ∈ kindred keys value ↔ key ∈ keys ∧ comparable key value = true := List.mem_filter

theorem notGreater_eq_empty_iff :
    notGreater keys value = ∅ ↔ ∀ key ∈ kindred keys value, Value.compare key value = .gt := by
  rw [Set.eq_empty_iff_forall_notMem]
  constructor
  · intro none key listed
    obtain ⟨member, kind⟩ := mem_kindred.mp listed
    obtain ⟨i, there⟩ := List.mem_iff_getElem?.mp member
    by_contra fits
    exact none i ⟨key, there, kind, fits⟩
  · rintro greater i ⟨key, there, kind, fits⟩
    exact fits (greater key (mem_kindred.mpr ⟨List.mem_of_getElem? there, kind⟩))

theorem sortable_kindred (numbers : ∀ key ∈ keys, key.isNaN = false) :
    ∀ key ∈ kindred keys value, key.Sortable := by
  intro key listed
  obtain ⟨member, kind⟩ := mem_kindred.mp listed
  exact sortable_of_comparable kind (numbers key member)

theorem sortable_of_getElem? (numbers : ∀ key ∈ keys, key.isNaN = false) {key : Value} {i : Nat}
    (there : keys[i]? = some key) (kind : comparable key value = true) : key.Sortable :=
  sortable_of_comparable kind (numbers key (List.mem_of_getElem? there))

/-- Of two kindred keys the one further up is related to the other. -/
theorem related_of_lt {related : Value → Value → Prop}
    (pairwise : (kindred keys value).Pairwise related) {i j : Nat} {a b : Value} (before : i < j)
    (atI : keys[i]? = some a) (atJ : keys[j]? = some b) (kindA : comparable a value = true)
    (kindB : comparable b value = true) : related a b := by
  obtain ⟨insideI, rfl⟩ := List.getElem?_eq_some_iff.mp atI
  obtain ⟨insideJ, rfl⟩ := List.getElem?_eq_some_iff.mp atJ
  have all := List.pairwise_iff_getElem.mp (List.pairwise_filter.mp pairwise)
  exact all i j insideI insideJ before kindA kindB

/-- Among keys in order all that are not greater come before those that are. -/
theorem beforeGreater_eq_notGreater (isNumber : value.isNaN = false)
    (numbers : ∀ key ∈ keys, key.isNaN = false)
    (ordered : (kindred keys value).IsChain fun a b => (Value.compare a b).isLE = true) :
    beforeGreater keys value = notGreater keys value := by
  have pairwise := Value.pairwise_of_isChain (fun _ _ _ => Value.isLE_compare_trans)
    (sortable_kindred numbers) ordered
  ext i
  constructor
  · rintro ⟨⟨key, atI, kind⟩, bounds⟩
    exact ⟨key, atI, kind, bounds i (Nat.le_refl i) key atI kind⟩
  · rintro ⟨key, atI, kind, fits⟩
    refine ⟨⟨key, atI, kind⟩, fun j below other atJ otherKind => ?_⟩
    obtain rfl | before := below.eq_or_lt
    · obtain rfl := Option.some.inj (atJ.symm.trans atI)
      exact fits
    · have step := related_of_lt pairwise before atJ atI otherKind kind
      exact Ordering.isLE_iff_ne_gt.mp (Value.isLE_compare_trans
        (sortable_of_getElem? numbers atJ otherKind) (sortable_of_getElem? numbers atI kind)
        (sortable_of_comparable_right kind isNumber) step (Ordering.isLE_iff_ne_gt.mpr fits))

end Order

/-- The keys are among the entries, but for empty ones in place of missing ones. -/
theorem forall_mem_keys (property : Value → Prop) (empty : property .empty)
    {rows : List (List Value)} (entries : ∀ row ∈ rows, ∀ entry ∈ row, property entry)
    (direction : Direction) : ∀ key ∈ keys direction rows, property key := by
  intro key listed
  cases direction with
  | down =>
      obtain ⟨row, member, rfl⟩ := List.mem_map.mp listed
      change property (row[0]?.getD .empty)
      cases found : row[0]? with
      | none => exact empty
      | some first => exact entries row member first (List.mem_of_getElem? found)
  | across =>
      cases rows with
      | nil => cases listed
      | cons row others => exact entries row List.mem_cons_self key listed

/-- An approximate look-up answers with the last key of the value's kind before the first that is
greater, and with an error if there is none. Where these keys are in order, that is the last of all
that are not greater, and there is none only if all are greater. -/
theorem approximate_answers (direction : Direction) {rows : List (List Value)}
    {value index flag : Value} {line : Nat} (scalar : value.isArray = false)
    (isNumber : value.isNaN = false)
    (numbers : ∀ row ∈ rows, ∀ entry ∈ row, entry.isNaN = false)
    (indexed : index.toInteger = .ok (line + 1)) (inside : line < depth direction rows)
    (chosen : flag.toBool = .ok true) :
    let found := keys direction rows
    let ends := direction.function.apply [value, .array rows, index, flag]
    let missing := Except.error (.notAvailable direction.function.name value)
    (∀ place, IsGreatest (beforeGreater found value) place →
      ends = .ok (result direction rows place line)) ∧
    (beforeGreater found value = ∅ → ends = missing) ∧
    ((kindred found value).IsChain (fun a b => (Value.compare a b).isLE = true) →
      (∀ place, IsGreatest (notGreater found value) place →
        ends = .ok (result direction rows place line)) ∧
      (ends = missing ↔ ∀ key ∈ kindred found value, Value.compare key value = .gt)) := by
  intro found ends missing
  have read : ends = answer direction rows value true line := by
    have arguments := apply_scalar direction rows scalar index (some flag) chosen
    rw [indexed] at arguments
    refine arguments.trans ?_
    change lineAt direction.function (line + 1) (depth direction rows) >>= _ = _
    rw [lineAt_of_lt _ inside]
    rfl
  rw [read]
  refine ⟨fun place greatest => answer_of_isGreatest greatest line,
    (answer_eq_error_iff line).mpr, fun ordered => ?_⟩
  have keyNumbers := forall_mem_keys (fun key => key.isNaN = false) rfl numbers direction
  have same := beforeGreater_eq_notGreater isNumber keyNumbers ordered
  refine ⟨fun place greatest => answer_of_isGreatest (same ▸ greatest) line, ?_⟩
  exact (answer_eq_error_iff line).trans (same ▸ notGreater_eq_empty_iff)

/-- Between two keys, with one of another kind and an empty one among them. -/
theorem approximate_answers_between :
    let rows : List (List Value) := [[.number 0, .text "F"], [.text "x", .text "-"],
      [.number 60, .text "D"], [.empty, .empty], [.number 80, .text "B"]]
    (∀ row ∈ rows, ∀ entry ∈ row, entry.isNaN = false) ∧
    (Value.number 2).toInteger = .ok (1 + 1) ∧ 1 < depth .down rows ∧
    (kindred (keys .down rows) (.number 75)).IsChain (fun a b => (Value.compare a b).isLE = true) ∧
    IsGreatest (notGreater (keys .down rows) (.number 75)) 2 ∧
    Strict.vlookup.apply [.number 75, .array rows, .number 2, .boolean true] = .ok (.text "D") := by
  intro rows
  have numbers : ∀ row ∈ rows, ∀ entry ∈ row, entry.isNaN = false := by decide
  have indexed : (Value.number 2).toInteger = .ok (1 + 1) := rfl
  have inside : 1 < depth .down rows := by decide
  have ordered : (kindred (keys .down rows) (.number 75)).IsChain
      (fun a b => (Value.compare a b).isLE = true) := by decide
  have greatest : IsGreatest (notGreater (keys .down rows) (.number 75)) 2 := by
    refine ⟨⟨.number 60, rfl, rfl, by decide⟩, ?_⟩
    rintro i ⟨key, atI, kind, fits⟩
    match i with
    | 0 | 1 | 2 => omega
    | 3 =>
        obtain rfl : Value.empty = key := Option.some.inj atI
        cases kind
    | 4 =>
        obtain rfl : Value.number 80 = key := Option.some.inj atI
        exact absurd (by decide) fits
    | i + 5 => cases atI
  have scalar : (Value.number 75).isArray = false := rfl
  have answers := approximate_answers .down scalar (by decide) numbers indexed inside
    (show (Value.boolean true).toBool = .ok true from rfl)
  exact ⟨numbers, indexed, inside, ordered, greatest, (answers.2.2 ordered).1 2 greatest⟩

end Spreadsheet.Lookup
