import Spreadsheet.Proofs.Address.Case

/-! Texts that are read as addresses, by the numbers that their letters and digits stand for. -/

namespace Spreadsheet.Address

open Spreadsheet.Text

/-- Letters as the digits of a number, from `1` for `A` to `26` for `Z`, the last of them first. -/
def lettersValue (letters : List Char) : Nat := Nat.ofDigits 26 (letters.reverse.map letterValue)

theorem lettersValue_concat (letters : List Char) (c : Char) :
    lettersValue (letters ++ [c]) = lettersValue letters * 26 + letterValue c := by
  unfold lettersValue
  rw [List.reverse_append, List.reverse_singleton, List.singleton_append, List.map_cons,
    Nat.ofDigits_cons, Nat.mul_comm, Nat.add_comm]

/-- The letters in upper case, by their places in the alphabet. -/
theorem exists_letter {c : Char} (alpha : c.isAlpha = true) :
    ∃ n < 26, c.toUpper = letter n ∧ letterValue c = n + 1 := by
  have upper : ∀ n < 26, (letter n).toUpper = letter n := by decide
  have lower : ∀ n < 26, (Char.ofNat (97 + n)).toUpper = letter n := by decide
  have found : ∃ n < 26, c.toUpper = letter n := by
    rcases isAlpha_iff.mp alpha with ⟨low, high⟩ | ⟨low, high⟩
    · have same : c = letter (c.toNat - 65) := by
        change c = Char.ofNat (65 + (c.toNat - 65))
        rw [Nat.add_sub_cancel' low, Char.ofNat_toNat]
      have inside : c.toNat - 65 < 26 := by omega
      exact ⟨_, inside, (congrArg Char.toUpper same).trans (upper _ inside)⟩
    · have same : c = Char.ofNat (97 + (c.toNat - 97)) := by
        rw [Nat.add_sub_cancel' low, Char.ofNat_toNat]
      have inside : c.toNat - 97 < 26 := by omega
      exact ⟨_, inside, (congrArg Char.toUpper same).trans (lower _ inside)⟩
  obtain ⟨n, inside, same⟩ := found
  refine ⟨n, inside, same, ?_⟩
  rw [← letterValue_toUpper, same, letterValue_letter inside]

theorem lettersValue_pos {letters : List Char} (filled : letters ≠ []) :
    0 < lettersValue letters := by
  obtain ⟨front, c, rfl⟩ := List.eq_nil_or_concat' letters |>.resolve_left filled
  rw [lettersValue_concat]
  exact Nat.succ_pos _

/-- A text of letters is what its number is printed as. -/
theorem bijectiveLetters_lettersValue {letters : List Char}
    (isAlpha : ∀ c ∈ letters, c.isAlpha = true) :
    bijectiveLetters (lettersValue letters) = upperAscii letters := by
  induction letters using List.reverseRecOn with
  | nil =>
      change bijectiveLetters 0 = []
      unfold bijectiveLetters
      rfl
  | append_singleton front c ih =>
      rw [List.forall_mem_append, List.forall_mem_singleton] at isAlpha
      obtain ⟨n, inside, upper, value⟩ := exists_letter isAlpha.2
      have before : (lettersValue front * 26 + (n + 1) - 1) / 26 = lettersValue front := by omega
      have last : (lettersValue front * 26 + (n + 1) - 1) % 26 = n := by omega
      unfold bijectiveLetters
      rw [lettersValue_concat, value, if_neg (by omega), before, last, ih isAlpha.1, ← upper,
        upperAscii_append]
      rfl

theorem columnValue_singleton_eq_ok_iff {c : Char} (alpha : c.isAlpha = true)
    {reached value : Nat} :
    columnValue reached [c] = .ok value ↔
      reached * 26 + letterValue c = value ∧ reached * 26 + letterValue c ≤ columnLimit := by
  simp only [columnValue, alpha, if_true]
  split
  next inside => rw [Except.ok.injEq, and_iff_left inside]
  next outside =>
    refine iff_of_false ?_ fun found => absurd found.2 outside
    rintro ⟨⟩

/-- No front of the letters stands for more than they do all together, so none is rejected before
the sheet ends. -/
theorem columnValue_eq_ok_iff {letters : List Char} (isAlpha : ∀ c ∈ letters, c.isAlpha = true)
    {value : Nat} :
    columnValue 0 letters = .ok value ↔
      lettersValue letters = value ∧ lettersValue letters ≤ columnLimit := by
  induction letters using List.reverseRecOn generalizing value with
  | nil =>
      change Except.ok 0 = Except.ok value ↔ 0 = value ∧ 0 ≤ columnLimit
      rw [Except.ok.injEq, and_iff_left (Nat.zero_le _)]
  | append_singleton front c ih =>
      rw [List.forall_mem_append, List.forall_mem_singleton] at isAlpha
      rw [columnValue_append, lettersValue_concat]
      constructor
      · intro reads
        obtain ⟨reached, counts, last⟩ := exists_ok_of_bind reads
        obtain ⟨rfl, -⟩ := (ih isAlpha.1).mp counts
        exact (columnValue_singleton_eq_ok_iff isAlpha.2).mp last
      · intro small
        have within : lettersValue front ≤ columnLimit := by omega
        rw [(ih isAlpha.1).mpr ⟨rfl, within⟩]
        exact (columnValue_singleton_eq_ok_iff isAlpha.2).mpr small

theorem columnOfLetters_eq_ok_iff_value {letters : List Char}
    (isAlpha : ∀ c ∈ letters, c.isAlpha = true) {column : UInt16} :
    columnOfLetters letters = .ok column ↔
      letters ≠ [] ∧ lettersValue letters ≤ columnLimit ∧
        column = .ofNat (lettersValue letters - 1) := by
  rw [columnOfLetters_eq_ok_iff]
  simp only [columnValue_eq_ok_iff isAlpha]
  constructor
  · rintro ⟨filled, _, ⟨rfl, inside⟩, rfl⟩
    exact ⟨filled, inside, rfl⟩
  · rintro ⟨filled, inside, rfl⟩
    exact ⟨filled, _, ⟨rfl, inside⟩, rfl⟩

namespace Shape

/-- Letters and digits that stand for a column and a row of the sheet, counted from one. -/
structure InSheet (shape : Shape) : Prop where
  column : 1 ≤ lettersValue shape.letters ∧ lettersValue shape.letters ≤ columnLimit
  row : 1 ≤ decimalValue shape.digits ∧ decimalValue shape.digits ≤ rowLimit

/-- The address has the column and the row that the shape counts from one, and its marks. -/
structure Names (shape : Shape) (address : Address) : Prop where
  column : address.column.toNat = lettersValue shape.letters - 1
  row : address.row.toNat = decimalValue shape.digits - 1
  columnMark : address.columnAbsolute = shape.columnMark
  rowMark : address.rowAbsolute = shape.rowMark

/-- No zeros in front of the row. -/
def unpadded (shape : Shape) : Shape :=
  { shape with digits := shape.digits.dropWhile (· == '0') }

variable {shape : Shape} {address : Address}

theorem upperAscii_print (shape : Shape) (isDigit : ∀ c ∈ shape.digits, c.isDigit = true) :
    upperAscii shape.print = shape.upper.print := by
  have marks (absolute : Bool) : upperAscii (mark absolute) = mark absolute := by
    cases absolute <;> rfl
  unfold print
  simp only [upperAscii_append, marks, upperAscii_eq_self isDigit]
  rfl

/-- Rows and columns of the sheet fit in the widths that hold them. -/
theorem InSheet.names (inSheet : shape.InSheet) :
    shape.Names ⟨.ofNat (decimalValue shape.digits - 1), .ofNat (lettersValue shape.letters - 1),
      shape.rowMark, shape.columnMark⟩ := by
  obtain ⟨⟨-, column⟩, -, row⟩ := inSheet
  change _ ≤ 16384 at column
  change _ ≤ 1048576 at row
  refine ⟨UInt16.toNat_ofNat_of_lt' ?_, UInt32.toNat_ofNat_of_lt' ?_, rfl, rfl⟩
  · exact Nat.lt_of_le_of_lt (Nat.sub_le _ 1) (Nat.lt_of_le_of_lt column (by decide))
  · exact Nat.lt_of_le_of_lt (Nat.sub_le _ 1) (Nat.lt_of_le_of_lt row (by decide))

theorem Valid.ofShape_eq_ok_iff (valid : shape.Valid) {text : List Char} :
    ofShape text shape = .ok address ↔
      shape.InSheet ∧ address = ⟨.ofNat (decimalValue shape.digits - 1),
        .ofNat (lettersValue shape.letters - 1), shape.rowMark, shape.columnMark⟩ := by
  rw [Address.ofShape_eq_ok_iff]
  simp only [columnOfLetters_eq_ok_iff_value valid.isAlpha]
  constructor
  · rintro ⟨_, ⟨filled, inside, rfl⟩, positive, small, rfl⟩
    exact ⟨⟨⟨lettersValue_pos filled, inside⟩, Nat.pos_of_ne_zero positive, small⟩, rfl⟩
  · rintro ⟨⟨column, row⟩, rfl⟩
    exact ⟨_, ⟨valid.letters_ne_nil, column.2, rfl⟩, Nat.ne_of_gt row.1, row.2, rfl⟩

/-- What a shape names is printed as the shape, in upper case and without the zeros in front. -/
theorem Names.print_eq (names : shape.Names address) (valid : shape.Valid)
    (inSheet : shape.InSheet) : address.print = upperAscii shape.unpadded.print := by
  have column : address.column.toNat + 1 = lettersValue shape.letters := by
    rw [names.column, Nat.sub_add_cancel inSheet.column.1]
  have row : address.row.toNat + 1 = decimalValue shape.digits := by
    rw [names.row, Nat.sub_add_cancel inSheet.row.1]
  have isDigit : ∀ c ∈ shape.unpadded.digits, c.isDigit = true := fun c member =>
    valid.isDigit c ((List.dropWhile_suffix _).subset member)
  rw [upperAscii_print _ isDigit]
  unfold Address.print columnLetters
  rw [names.columnMark, names.rowMark, column, row, bijectiveLetters_lettersValue valid.isAlpha,
    decimalDigits_decimalValue valid.isDigit inSheet.row.1]
  rfl

end Shape

theorem read_of_print {s : List Char} {shape : Shape} (valid : shape.Valid)
    (trimmed : trim s = shape.print) : read s = ofShape shape.print shape := by
  unfold read
  dsimp only
  rw [trimmed, valid.shape?_print]

/-! Fixed widths. Values of letters and digits have no bound where an address is read; counted in
machine words, with every product and sum checked, they lead to the same results and errors. -/

/-- A number that a type of `size` numbers holds. -/
def held? (size n : Nat) : Option Nat := if n < size then some n else none

/-- A product with a sum after it, each of them held. -/
def multiplyAdd? (size factor value summand : Nat) : Option Nat := do
  let product ← held? size (factor * value)
  held? size (product + summand)

/-- What is not held counts as the largest number that is. -/
def saturated (size : Nat) (number : Option Nat) : Nat := number.getD (size - 1)

/-- Value of column letters, counted in 32 bits. -/
def columnInWords (reached : Nat) : List Char → Except ReferenceError Nat
  | [] => .ok reached
  | c :: rest =>
    if c.isAlpha then
      match (multiplyAdd? UInt32.size 26 reached (letterValue c)).filter (· ≤ columnLimit) with
      | some next => columnInWords next rest
      | none => .error (.columnOutOfBounds reached)
    else .error (.notAColumnLetter c)

/-- Value of digits, counted in 64 bits. -/
def numberInWords? (digits : List Char) : Option Nat :=
  digits.foldlM (fun value c => multiplyAdd? UInt64.size 10 value (digitValue c)) 0

def columnOfLettersInWords (letters : List Char) : Except ReferenceError UInt16 :=
  if letters.isEmpty then .error .noColumnLetters
  else do
    let value ← columnInWords 0 letters
    return .ofNat (value - 1)

def rowInWords (text digits : List Char) : Except ReferenceError UInt32 :=
  let number := saturated UInt64.size (numberInWords? digits)
  if number = 0 then .error (.rowZero (.ofList text))
  else if rowLimit < number then
    .error (.rowOutOfBounds (saturated UInt32.size (held? UInt32.size (number - 1))))
  else return .ofNat (number - 1)

def ofShapeInWords (text : List Char) (shape : Shape) : Except ReferenceError Address := do
  let column ← columnOfLettersInWords shape.letters
  let row ← rowInWords text shape.digits
  return ⟨row, column, shape.rowMark, shape.columnMark⟩

/-- Reads an address without any number beyond 64 bits. -/
def readInWords (s : List Char) : Except ReferenceError Address :=
  let text := trim s
  match shape? text with
  | none => .error (.notAnAddress (.ofList text))
  | some shape => ofShapeInWords text shape

theorem held?_of_lt {size n : Nat} (fits : n < size) : held? size n = some n := if_pos fits

theorem held?_eq_none {size n : Nat} (large : size ≤ n) : held? size n = none :=
  if_neg (Nat.not_lt.mpr large)

theorem multiplyAdd?_eq (size factor value summand : Nat) :
    multiplyAdd? size factor value summand = held? size (factor * value + summand) := by
  unfold multiplyAdd?
  rcases Nat.lt_or_ge (factor * value) size with fits | large
  · rw [held?_of_lt fits]
    rfl
  · rw [held?_eq_none large, held?_eq_none (Nat.le_add_right_of_le large)]
    rfl

/-- Inside the sheet no further letter overflows, so the limit is what rejects it. -/
theorem columnInWords_eq {reached : Nat} (inside : reached ≤ columnLimit) (letters : List Char) :
    columnInWords reached letters = columnValue reached letters := by
  induction letters generalizing reached with
  | nil => rfl
  | cons c rest ih =>
      unfold columnInWords columnValue
      split
      next alpha =>
        obtain ⟨n, small, -, value⟩ := exists_letter alpha
        have fits : 26 * reached + letterValue c < UInt32.size := by
          change reached ≤ 16384 at inside
          change _ < 4294967296
          omega
        rw [multiplyAdd?_eq, held?_of_lt fits, Nat.mul_comm, Option.filter_some]
        simp only [decide_eq_true_eq]
        by_cases within : reached * 26 + letterValue c ≤ columnLimit
        · rw [if_pos within, if_pos within]
          exact ih within
        · rw [if_neg within, if_neg within]
      next => rfl

theorem le_foldl_digits (digits : List Char) (value : Nat) :
    value ≤ digits.foldl (fun value c => 10 * value + digitValue c) value := by
  induction digits generalizing value with
  | nil => exact Nat.le_refl _
  | cons c rest ih => exact Nat.le_trans (by omega) (ih (10 * value + digitValue c))

/-- A value that is not held stays so with further digits. -/
theorem foldlM_multiplyAdd? (digits : List Char) {value : Nat} (fits : value < UInt64.size) :
    digits.foldlM (fun value c => multiplyAdd? UInt64.size 10 value (digitValue c)) value =
      held? UInt64.size (digits.foldl (fun value c => 10 * value + digitValue c) value) := by
  induction digits generalizing value with
  | nil => exact (held?_of_lt fits).symm
  | cons c rest ih =>
      rw [List.foldlM_cons, List.foldl_cons, multiplyAdd?_eq]
      rcases Nat.lt_or_ge (10 * value + digitValue c) UInt64.size with fits | large
      · rw [held?_of_lt fits]
        exact ih fits
      · rw [held?_eq_none large]
        exact (held?_eq_none (Nat.le_trans large (le_foldl_digits _ _))).symm

theorem numberInWords?_eq (digits : List Char) :
    numberInWords? digits = held? UInt64.size (decimalValue digits) :=
  foldlM_multiplyAdd? digits (by decide)

theorem saturated_held? (size n : Nat) : saturated size (held? size n) = min n (size - 1) := by
  unfold saturated
  rcases Nat.lt_or_ge n size with fits | large
  · rw [held?_of_lt fits, Option.getD_some]
    omega
  · rw [held?_eq_none large, Option.getD_none]
    omega

theorem columnOfLettersInWords_eq (letters : List Char) :
    columnOfLettersInWords letters = columnOfLetters letters := by
  unfold columnOfLettersInWords columnOfLetters
  rw [columnInWords_eq (Nat.zero_le _)]

/-- The largest word stands for every number beyond it, and lies below the sheet as they do. -/
theorem rowInWords_eq (text digits : List Char) :
    rowInWords text digits =
      if decimalValue digits = 0 then .error (.rowZero (.ofList text))
      else if rowLimit < decimalValue digits then
        .error (.rowOutOfBounds (min (decimalValue digits - 1) (UInt32.size - 1)))
      else .ok (.ofNat (decimalValue digits - 1)) := by
  unfold rowInWords
  rw [numberInWords?_eq, saturated_held?]
  generalize decimalValue digits = value
  rcases Nat.lt_or_ge value UInt64.size with fits | large
  · have same : min value (UInt64.size - 1) = value := Nat.min_eq_left (by omega)
    simp only [same, saturated_held?]
    rfl
  · have same : min value (UInt64.size - 1) = UInt64.size - 1 := Nat.min_eq_right (by omega)
    have below : rowLimit < value := Nat.lt_of_lt_of_le (by decide) large
    have report : min (value - 1) (UInt32.size - 1) = UInt32.size - 1 := by
      change 18446744073709551616 ≤ value at large
      change min (value - 1) 4294967295 = 4294967295
      omega
    rw [if_neg (Nat.ne_of_gt (Nat.zero_lt_of_lt below)), if_pos below, report, same]
    rfl

theorem ofShapeInWords_eq (text : List Char) (shape : Shape) :
    ofShapeInWords text shape = ofShape text shape := by
  unfold ofShapeInWords ofShape
  rw [columnOfLettersInWords_eq, rowInWords_eq]
  refine congrArg (columnOfLetters shape.letters >>= ·) (funext fun column => ?_)
  dsimp only
  split
  next => rfl
  next => split <;> rfl

theorem readInWords_eq (s : List Char) : readInWords s = read s := by
  unfold readInWords read
  dsimp only
  cases shape? (trim s) with
  | none => rfl
  | some shape => exact ofShapeInWords_eq _ shape

/-- Addresses are read and printed inversely. Between blanks, the texts that are read are the
optional marks, letters and digits whose numbers lie inside the sheet; what they are read as has
these numbers, less one, and these marks, and is printed as the text in upper case and without the
zeros in front of the row. An address of the sheet is read back from its print. However many
letters and digits there are, machine words hold what is made of them. -/
theorem read_notation (s : List Char) :
    ((∃ address, read s = .ok address) ↔
      ∃ shape : Shape, shape.Valid ∧ trim s = shape.print ∧ shape.InSheet) ∧
    (∀ (shape : Shape) (address : Address), shape.Valid → trim s = shape.print →
      read s = .ok address →
        shape.Names address ∧ address.print = upperAscii shape.unpadded.print) ∧
    (∀ address : Address, address.InSheet → read address.print = .ok address) ∧
    readInWords s = read s := by
  refine ⟨⟨?_, ?_⟩, ?_, fun address => read_print, readInWords_eq s⟩
  · rintro ⟨address, reads⟩
    obtain ⟨shape, valid, -, trimmed, -⟩ := exists_shape_of_read reads
    rw [read_of_print valid trimmed, valid.ofShape_eq_ok_iff] at reads
    exact ⟨shape, valid, trimmed, reads.1⟩
  · rintro ⟨shape, valid, trimmed, inSheet⟩
    rw [read_of_print valid trimmed]
    exact ⟨_, valid.ofShape_eq_ok_iff.mpr ⟨inSheet, rfl⟩⟩
  · intro shape address valid trimmed reads
    rw [read_of_print valid trimmed, valid.ofShape_eq_ok_iff] at reads
    obtain ⟨inSheet, rfl⟩ := reads
    have names := inSheet.names
    exact ⟨names, names.print_eq valid inSheet⟩

/-- At the last cell of the sheet. -/
theorem read_notation_last :
    let shape : Shape := ⟨true, "xfD".toList, false, "0001048576".toList⟩
    let address : Address := ⟨1048575, 16383, false, true⟩
    trim " $xfD0001048576\t".toList = shape.print ∧
      read " $xfD0001048576\t".toList = .ok address ∧ shape.Names address ∧
      address.print = "$XFD1048576".toList ∧ read address.print = .ok address := by
  intro shape address
  have valid : shape.Valid :=
    ⟨by decide, by decide, List.all_eq_true.mp (by decide), List.all_eq_true.mp (by decide)⟩
  have trimmed : trim " $xfD0001048576\t".toList = shape.print := by decide
  have reads : read " $xfD0001048576\t".toList = .ok address := by decide
  obtain ⟨-, names, back, -⟩ := read_notation " $xfD0001048576\t".toList
  obtain ⟨same, print⟩ := names shape address valid trimmed reads
  refine ⟨trimmed, reads, same, print.trans (by decide), back address ?_⟩
  exact ⟨by decide, by decide⟩

end Spreadsheet.Address
