import Spreadsheet.Proofs.Address.Print

namespace Spreadsheet

open Spreadsheet.Text

theorem exists_ok_of_bind {ε α β : Type} {first : Except ε α} {next : α → Except ε β} {value : β}
    (ends : first >>= next = .ok value) :
    ∃ middle, first = .ok middle ∧ next middle = .ok value := by
  cases first with
  | ok middle => exact ⟨middle, rfl, ends⟩
  | error cause => cases ends

namespace Address

theorem mark_takeMark (s : List Char) : mark (takeMark s).1 ++ (takeMark s).2 = s := by
  unfold takeMark
  split <;> rfl

/-- A text with a shape is the print of that shape. -/
theorem valid_of_shape? {s : List Char} {shape : Shape} (found : shape? s = some shape) :
    shape.Valid ∧ shape.print = s := by
  unfold shape? at found
  dsimp only at found
  split at found
  next => cases found
  next filled =>
    cases found
    simp only [Bool.or_eq_true, not_or, List.isEmpty_iff, Bool.not_eq_true', Bool.not_eq_false]
      at filled
    obtain ⟨⟨letters, digits⟩, isDigit⟩ := filled
    refine ⟨⟨letters, digits, fun c => List.mem_takeWhile_imp, List.all_eq_true.mp isDigit⟩, ?_⟩
    unfold Shape.print
    dsimp only
    rw [List.append_assoc, mark_takeMark, List.append_assoc, List.takeWhile_append_dropWhile,
      mark_takeMark]

theorem columnValue_cons_eq_ok {reached value : Nat} {c : Char} {letters : List Char}
    (reads : columnValue reached (c :: letters) = .ok value) :
    reached * 26 + letterValue c ≤ columnLimit ∧
      columnValue (reached * 26 + letterValue c) letters = .ok value := by
  rw [columnValue] at reads
  dsimp only at reads
  split at reads
  next =>
    split at reads
    next inside => exact ⟨inside, reads⟩
    next => cases reads
  next => cases reads

theorem columnValue_le {reached value : Nat} {letters : List Char}
    (start : reached ≤ columnLimit) (reads : columnValue reached letters = .ok value) :
    value ≤ columnLimit := by
  induction letters generalizing reached with
  | nil =>
      cases reads
      exact start
  | cons c rest ih =>
      obtain ⟨inside, reads⟩ := columnValue_cons_eq_ok reads
      exact ih inside reads

/-- Every letter counts for one at least, so a fourth one goes beyond the last column. -/
theorem length_le_of_columnValue {letters : List Char} {value : Nat}
    (reads : columnValue 0 letters = .ok value) : letters.length ≤ 3 := by
  match letters with
  | [] | [_] | [_, _] | [_, _, _] => simp
  | a :: b :: c :: d :: rest =>
    have positive (letter : Char) : 0 < letterValue letter := Nat.succ_pos _
    obtain ⟨-, reads⟩ := columnValue_cons_eq_ok reads
    obtain ⟨-, reads⟩ := columnValue_cons_eq_ok reads
    obtain ⟨-, reads⟩ := columnValue_cons_eq_ok reads
    obtain ⟨inside, -⟩ := columnValue_cons_eq_ok reads
    change _ ≤ 16384 at inside
    have := positive a
    have := positive b
    have := positive c
    have := positive d
    omega

theorem columnOfLetters_eq_ok_iff {letters : List Char} {column : UInt16} :
    columnOfLetters letters = .ok column ↔
      letters ≠ [] ∧ ∃ value, columnValue 0 letters = .ok value ∧ column = .ofNat (value - 1) := by
  unfold columnOfLetters
  cases letters with
  | nil => exact ⟨nofun, fun found => absurd rfl found.1⟩
  | cons c rest =>
      rw [if_neg (by simp)]
      cases columnValue 0 (c :: rest) with
      | error cause => exact ⟨nofun, fun ⟨_, _, found, _⟩ => nomatch found⟩
      | ok value =>
          constructor
          · rintro ⟨⟩
            exact ⟨List.cons_ne_nil _ _, value, rfl, rfl⟩
          · rintro ⟨-, _, ⟨⟩, rfl⟩
            rfl

theorem columnOfLetters_lt {letters : List Char} {column : UInt16}
    (reads : columnOfLetters letters = .ok column) : column.toNat < columnLimit := by
  obtain ⟨-, value, counts, rfl⟩ := columnOfLetters_eq_ok_iff.mp reads
  have bound := columnValue_le (Nat.zero_le _) counts
  change value ≤ 16384 at bound
  change (UInt16.ofNat (value - 1)).toNat < 16384
  rw [UInt16.toNat_ofNat_of_lt' (by simp only [UInt16.size]; omega)]
  omega

theorem ofShape_eq_ok_iff {text : List Char} {shape : Shape} {address : Address} :
    ofShape text shape = .ok address ↔
      ∃ column, columnOfLetters shape.letters = .ok column ∧
        decimalValue shape.digits ≠ 0 ∧ decimalValue shape.digits ≤ rowLimit ∧
        address = ⟨.ofNat (decimalValue shape.digits - 1), column, shape.rowMark,
          shape.columnMark⟩ := by
  unfold ofShape
  cases columnOfLetters shape.letters with
  | error cause => exact ⟨nofun, fun ⟨_, found, _⟩ => nomatch found⟩
  | ok column =>
      simp only [bind, Except.bind, Except.ok.injEq, exists_eq_left']
      split
      next zero => exact ⟨nofun, fun found => absurd zero found.1⟩
      next positive =>
        split
        next large => exact ⟨nofun, fun found => absurd found.2.1 (Nat.not_le.mpr large)⟩
        next small =>
          constructor
          · rintro ⟨⟩
            exact ⟨positive, Nat.not_lt.mp small, rfl⟩
          · rintro ⟨-, -, rfl⟩
            rfl

theorem inSheet_of_ofShape {text : List Char} {shape : Shape} {address : Address}
    (reads : ofShape text shape = .ok address) : address.InSheet := by
  obtain ⟨column, letters, filled, within, rfl⟩ := ofShape_eq_ok_iff.mp reads
  refine ⟨?_, columnOfLetters_lt letters⟩
  change decimalValue shape.digits ≤ 1048576 at within
  change (UInt32.ofNat (decimalValue shape.digits - 1)).toNat < 1048576
  rw [UInt32.toNat_ofNat_of_lt' (by simp only [UInt32.size]; omega)]
  omega

theorem inSheet_of_read {s : List Char} {address : Address} (reads : read s = .ok address) :
    address.InSheet := by
  unfold read at reads
  dsimp only at reads
  split at reads
  next => cases reads
  next shape _ => exact inSheet_of_ofShape reads

/-- Between blanks, what is read as an address has its shape, and is read alone as well. -/
theorem exists_shape_of_read {s : List Char} {address : Address} (reads : read s = .ok address) :
    ∃ shape : Shape, shape.Valid ∧ shape.letters.length ≤ 3 ∧ trim s = shape.print ∧
      read shape.print = .ok address := by
  unfold read at reads
  dsimp only at reads
  split at reads
  next => cases reads
  next shape found =>
    obtain ⟨valid, print⟩ := valid_of_shape? found
    obtain ⟨column, letters, row⟩ := ofShape_eq_ok_iff.mp reads
    obtain ⟨-, value, counts, -⟩ := columnOfLetters_eq_ok_iff.mp letters
    refine ⟨shape, valid, length_le_of_columnValue counts, print.symm, ?_⟩
    unfold read
    rw [trim_of_visible fun _ => valid.isBlank_of_mem_print]
    dsimp only
    rw [valid.shape?_print]
    exact ofShape_eq_ok_iff.mpr ⟨column, letters, row⟩

/-- An address depends on what trimming leaves of its text. -/
theorem read_of_trim_eq {s t : List Char} (same : trim s = trim t) : read s = read t := by
  unfold read
  rw [same]

theorem read_gapped {lead trail : List Char} (leads : AllBlank lead) (trails : AllBlank trail)
    (s : List Char) : read (lead ++ (s ++ trail)) = read s :=
  read_of_trim_eq (by rw [trim_append_left leads, trim_append_right trails])

theorem colon_not_mem {s : List Char} {address : Address} (names : read s = .ok address) :
    ':' ∉ s := by
  obtain ⟨shape, valid, -, trimmed, -⟩ := exists_shape_of_read names
  intro member
  have inside : ':' ∈ shape.print := trimmed ▸ mem_trim (by decide) member
  rcases valid.mem_print inside with dollar | letter | digit
  · cases dollar
  · cases letter
  · cases digit

end Address

end Spreadsheet
