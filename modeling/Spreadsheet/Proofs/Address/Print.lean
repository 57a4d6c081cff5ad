import Spreadsheet.Proofs.Formula.Subtrees
import Spreadsheet.Proofs.Text.Ascii
import Spreadsheet.Proofs.Text.Blank

namespace Spreadsheet

open Spreadsheet.Text

namespace Address

theorem isAlpha_letter {n : Nat} (inside : n < 26) : (letter n).isAlpha = true := by
  revert n
  decide

theorem letterValue_letter {n : Nat} (inside : n < 26) : letterValue (letter n) = n + 1 := by
  revert n
  decide

theorem isAlpha_of_mem_bijectiveLetters {n : Nat} {c : Char} (member : c ∈ bijectiveLetters n) :
    c.isAlpha = true := by
  fun_induction bijectiveLetters n with
  | case1 => cases member
  | case2 n _ ih =>
      rcases List.mem_append.mp member with before | last
      · exact ih before
      · rw [List.mem_singleton.mp last]
        exact isAlpha_letter (Nat.mod_lt _ (by decide))

theorem bijectiveLetters_ne_nil {n : Nat} (positive : 0 < n) : bijectiveLetters n ≠ [] := by
  unfold bijectiveLetters
  rw [if_neg (by omega)]
  exact List.append_ne_nil_of_right_ne_nil _ (by simp)

theorem columnValue_append (reached : Nat) (letters more : List Char) :
    columnValue reached (letters ++ more) =
      columnValue reached letters >>= fun value => columnValue value more := by
  induction letters generalizing reached with
  | nil => rfl
  | cons c rest ih =>
      simp only [List.cons_append, columnValue]
      repeat' split
      · exact ih _
      · rfl
      · rfl

/-- Letters of a number are read as that number, so none of their prefixes is too large. -/
theorem columnValue_bijectiveLetters {n : Nat} (inside : n ≤ columnLimit) :
    columnValue 0 (bijectiveLetters n) = .ok n := by
  fun_induction bijectiveLetters n with
  | case1 => rfl
  | case2 n positive ih =>
      have last := Nat.mod_lt (n - 1) (show 0 < 26 by decide)
      have value : (n - 1) / 26 * 26 + letterValue (letter ((n - 1) % 26)) = n := by
        rw [letterValue_letter last]
        omega
      rw [columnValue_append, ih (by omega)]
      change columnValue ((n - 1) / 26) [letter ((n - 1) % 26)] = _
      simp only [columnValue, isAlpha_letter last, if_true, value, if_pos inside]

theorem columnOfLetters_columnLetters {column : UInt16} (inside : column.toNat < columnLimit) :
    columnOfLetters (columnLetters column) = .ok column := by
  have filled := bijectiveLetters_ne_nil (Nat.succ_pos column.toNat)
  unfold columnOfLetters columnLetters
  rw [if_neg (by simpa using filled), columnValue_bijectiveLetters inside]
  exact congrArg Except.ok (UInt16.ofNat_toNat)

/-- One letter less for each division by their number. -/
theorem length_bijectiveLetters_le (n : Nat) :
    (bijectiveLetters n).length ≤ (bijectiveLetters ((n - 1) / 26)).length + 1 := by
  conv_lhs => unfold bijectiveLetters
  split
  · exact Nat.zero_le _
  · rw [List.length_append, List.length_singleton]

theorem length_columnLetters {column : UInt16} (inside : column.toNat < columnLimit) :
    (columnLetters column).length ≤ 3 := by
  change column.toNat < 16384 at inside
  have one := length_bijectiveLetters_le (column.toNat + 1)
  have two := length_bijectiveLetters_le ((column.toNat + 1 - 1) / 26)
  have three := length_bijectiveLetters_le (((column.toNat + 1 - 1) / 26 - 1) / 26)
  have done : ((((column.toNat + 1 - 1) / 26 - 1) / 26) - 1) / 26 = 0 := by omega
  have none : (bijectiveLetters 0).length = 0 := by simp [bijectiveLetters]
  rw [done, none] at three
  unfold columnLetters
  omega

theorem takeMark_mark {rest : List Char} (absolute : Bool) (plain : rest.head? ≠ some '$') :
    takeMark (mark absolute ++ rest) = (absolute, rest) := by
  cases absolute with
  | true => rfl
  | false =>
      cases rest with
      | nil => rfl
      | cons c others =>
          change takeMark (c :: others) = _
          unfold takeMark
          split
          next same => exact absurd (congrArg List.head? same) plain
          next => rfl

def Shape.print (shape : Shape) : List Char :=
  mark shape.columnMark ++ shape.letters ++ mark shape.rowMark ++ shape.digits

/-- Letters and digits, at least one of each. -/
structure Shape.Valid (shape : Shape) : Prop where
  letters_ne_nil : shape.letters ≠ []
  digits_ne_nil : shape.digits ≠ []
  isAlpha : ∀ c ∈ shape.letters, c.isAlpha = true
  isDigit : ∀ c ∈ shape.digits, c.isDigit = true

/-- Marks and digits hold no letter in front. -/
theorem isAlpha_head?_mark {digits : List Char} (isDigit : ∀ c ∈ digits, c.isDigit = true)
    (absolute : Bool) {c : Char} (head : (mark absolute ++ digits).head? = some c) :
    c.isAlpha = false := by
  cases absolute with
  | true =>
      cases head
      decide
  | false => exact isAlpha_eq_false_of_isDigit (isDigit c (List.mem_of_head? head))

theorem Shape.Valid.shape?_print {shape : Shape} (valid : shape.Valid) :
    shape? shape.print = some shape := by
  obtain ⟨columnMark, letters, rowMark, digits⟩ := shape
  obtain ⟨someLetters, someDigits, isAlpha, isDigit⟩ := valid
  dsimp only at someLetters someDigits isAlpha isDigit
  have parts := takeWhile_dropWhile_append isAlpha fun c => isAlpha_head?_mark isDigit rowMark
  have firstLetter : (letters ++ (mark rowMark ++ digits)).head? ≠ some '$' := by
    rw [List.head?_append_of_ne_nil _ someLetters]
    exact head?_ne_some (by decide) isAlpha
  have firstDigit : digits.head? ≠ some '$' := head?_ne_some (by decide) isDigit
  unfold shape? print
  simp only [List.append_assoc, takeMark_mark columnMark firstLetter, parts,
    takeMark_mark rowMark firstDigit, List.all_eq_true.mpr isDigit]
  rw [if_neg]
  simpa using ⟨someLetters, someDigits⟩

namespace Shape.Valid

variable {shape : Shape} (valid : shape.Valid)

include valid

/-- Characters that shapes are printed with. -/
theorem mem_print {c : Char} (member : c ∈ shape.print) :
    c = '$' ∨ c.isAlpha = true ∨ c.isDigit = true := by
  have ofMark {absolute : Bool} (inside : c ∈ mark absolute) : c = '$' := by
    cases absolute with
    | true => exact List.mem_singleton.mp inside
    | false => cases inside
  simp only [Shape.print, List.mem_append] at member
  rcases member with ((columnMark | letters) | rowMark) | digits
  · exact .inl (ofMark columnMark)
  · exact .inr (.inl (valid.isAlpha c letters))
  · exact .inl (ofMark rowMark)
  · exact .inr (.inr (valid.isDigit c digits))

theorem print_eq_cons :
    ∃ c others, shape.print = c :: others ∧ (c = '$' ∨ c.isAlpha = true) := by
  obtain ⟨columnMark, letters, rowMark, digits⟩ := shape
  obtain ⟨c, others, rfl⟩ := List.exists_cons_of_ne_nil valid.letters_ne_nil
  cases columnMark with
  | true => exact ⟨'$', _, rfl, .inl rfl⟩
  | false => exact ⟨c, _, rfl, .inr (valid.isAlpha c List.mem_cons_self)⟩

theorem exists_isDigit : ∃ c ∈ shape.print, c.isDigit = true := by
  obtain ⟨c, inside⟩ := List.exists_mem_of_ne_nil _ valid.digits_ne_nil
  exact ⟨c, List.mem_append_right _ inside, valid.isDigit c inside⟩

theorem isBlank_of_mem_print {c : Char} (member : c ∈ shape.print) : isBlank c = false := by
  rcases valid.mem_print member with rfl | letter | digit
  · decide
  · exact isBlank_of_isAlpha letter
  · exact isBlank_of_isDigit digit

end Shape.Valid

def shape (address : Address) : Shape :=
  ⟨address.columnAbsolute, columnLetters address.column, address.rowAbsolute,
    decimalDigits (address.row.toNat + 1)⟩

theorem valid_shape (address : Address) : address.shape.Valid where
  letters_ne_nil := bijectiveLetters_ne_nil (Nat.succ_pos _)
  digits_ne_nil := decimalDigits_ne_nil _
  isAlpha _ := isAlpha_of_mem_bijectiveLetters
  isDigit _ := isDigit_of_mem_decimalDigits

theorem shape?_print (address : Address) : shape? address.print = some address.shape :=
  address.valid_shape.shape?_print

theorem ofShape_shape {address : Address} (inSheet : address.InSheet) (text : List Char) :
    ofShape text address.shape = .ok address := by
  obtain ⟨rowInside, columnInside⟩ := inSheet
  have within : ¬ rowLimit < address.row.toNat + 1 := Nat.not_lt.mpr rowInside
  have column : columnOfLetters address.shape.letters = .ok address.column :=
    columnOfLetters_columnLetters columnInside
  have number : decimalValue address.shape.digits = address.row.toNat + 1 :=
    decimalValue_decimalDigits _
  unfold ofShape
  rw [column, number]
  simp only [bind, Except.bind, if_neg (Nat.succ_ne_zero _), if_neg within, Nat.add_sub_cancel,
    UInt32.ofNat_toNat]
  rfl

/-- An address of the sheet is read back from its print. -/
theorem read_print {address : Address} (inSheet : address.InSheet) :
    read address.print = .ok address := by
  have visible : ∀ c ∈ address.print, isBlank c = false :=
    fun _ => address.valid_shape.isBlank_of_mem_print
  unfold read
  rw [trim_of_visible visible]
  dsimp only
  rw [shape?_print]
  exact ofShape_shape inSheet _

end Address

end Spreadsheet
