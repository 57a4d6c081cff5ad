import Mathlib.Tactic
import Spreadsheet.Text.Ascii

/-! Classes of characters as ranges of their numbers, and the digits of a number. -/

namespace Spreadsheet.Text

theorem isAlpha_iff {c : Char} :
    c.isAlpha = true ↔ 65 ≤ c.toNat ∧ c.toNat ≤ 90 ∨ 97 ≤ c.toNat ∧ c.toNat ≤ 122 := by
  change (decide ('A'.val ≤ c.val ∧ c.val ≤ 'Z'.val) ||
    decide ('a'.val ≤ c.val) && decide (c.val ≤ 'z'.val)) = true ↔ _
  simp only [Bool.or_eq_true, Bool.and_eq_true, decide_eq_true_eq, UInt32.le_iff_toNat_le]
  rfl

theorem isAlphanum_iff {c : Char} :
    c.isAlphanum = true ↔ c.isAlpha = true ∨ c.isDigit = true := Bool.or_eq_true_iff

theorem isDigit_iff {c : Char} : c.isDigit = true ↔ 48 ≤ c.toNat ∧ c.toNat ≤ 57 :=
  Char.isDigit_iff_toNat

theorem isAlpha_eq_false_of_isDigit {c : Char} (digit : c.isDigit = true) : c.isAlpha = false := by
  rw [isDigit_iff] at digit
  rw [Bool.eq_false_iff, ne_eq, isAlpha_iff]
  omega

theorem toUpper_eq_self_of_isDigit {c : Char} (digit : c.isDigit = true) : c.toUpper = c := by
  rw [isDigit_iff] at digit
  refine dif_neg fun lower => ?_
  have low : 97 ≤ c.toNat := UInt32.le_iff_toNat_le.mp lower.1
  omega

theorem sameAscii_eq_false {s t : List Char} {c : Char} (digit : c.isDigit = true) (member : c ∈ s)
    (outside : c ∉ upperAscii t) : sameAscii s t = false := by
  unfold sameAscii
  rw [beq_eq_false_iff_ne]
  intro same
  rw [← same] at outside
  exact outside (List.mem_map.mpr ⟨c, member, toUpper_eq_self_of_isDigit digit⟩)

/-- No text of a class begins with a character outside it. -/
theorem head?_ne_some {p : Char → Bool} {s : List Char} {c : Char} (outside : p c = false)
    (all : ∀ d ∈ s, p d = true) : s.head? ≠ some c := by
  intro head
  rw [all c (List.mem_of_head? head)] at outside
  cases outside

/-- A class is taken off the front up to where it ends. -/
theorem takeWhile_dropWhile_append {p : Char → Bool} {front rest : List Char}
    (all : ∀ c ∈ front, p c = true) (stops : ∀ c, rest.head? = some c → p c = false) :
    (front ++ rest).takeWhile p = front ∧ (front ++ rest).dropWhile p = rest := by
  rw [List.takeWhile_append_of_pos all, List.dropWhile_append_of_pos all]
  cases rest with
  | nil => simp
  | cons c others => simp [stops c rfl]

theorem decimalValue_decimalDigits (n : Nat) : decimalValue (decimalDigits n) = n :=
  Nat.ofDigitChars_ten_toDigits

theorem isDigit_of_mem_decimalDigits {n : Nat} {c : Char} (member : c ∈ decimalDigits n) :
    c.isDigit = true :=
  Nat.isDigit_of_mem_toDigits (by decide) (by decide) member

theorem decimalDigits_ne_nil (n : Nat) : decimalDigits n ≠ [] := Nat.toDigits_ne_nil

theorem digitValue_lt {c : Char} (digit : c.isDigit = true) : digitValue c < 10 := by
  rw [isDigit_iff] at digit
  change c.toNat - 48 < 10
  omega

theorem digitValue_pos {c : Char} (digit : c.isDigit = true) (filled : c ≠ '0') :
    0 < digitValue c := by
  rw [isDigit_iff] at digit
  refine Nat.pos_of_ne_zero fun none => filled (Char.toNat_inj.mp ?_)
  change c.toNat - 48 = 0 at none
  change c.toNat = 48
  omega

theorem decimalDigits_digitValue {c : Char} (digit : c.isDigit = true) :
    decimalDigits (digitValue c) = [c] := by
  have small := digitValue_lt digit
  have same : (digitValue c).digitChar = c := by
    rw [isDigit_iff] at digit
    apply Char.toNat_inj.mp
    rw [Nat.toNat_digitChar_of_lt_ten small]
    change 48 + (c.toNat - 48) = c.toNat
    omega
  unfold decimalDigits
  rw [Nat.toDigits_of_lt_base small, same]

/-- Digits behind those of a positive number are printed as they stand. -/
theorem decimalDigits_foldl {digits : List Char} (isDigit : ∀ c ∈ digits, c.isDigit = true)
    {value : Nat} (positive : 0 < value) :
    decimalDigits (digits.foldl (fun value c => 10 * value + digitValue c) value) =
      decimalDigits value ++ digits := by
  induction digits generalizing value with
  | nil => exact (List.append_nil _).symm
  | cons c rest ih =>
      obtain ⟨digit, digits⟩ := List.forall_mem_cons.mp isDigit
      calc decimalDigits (rest.foldl _ (10 * value + digitValue c))
        _ = decimalDigits (10 * value + digitValue c) ++ rest := ih digits (by omega)
        _ = (decimalDigits value ++ decimalDigits (digitValue c)) ++ rest :=
            congrArg (· ++ rest)
              (Nat.toDigits_append_toDigits (by decide) positive (digitValue_lt digit)).symm
        _ = decimalDigits value ++ c :: rest := by
            rw [decimalDigits_digitValue digit, List.append_assoc, List.singleton_append]

/-- A positive number is printed as it was written, without the zeros in front. -/
theorem decimalDigits_decimalValue {digits : List Char}
    (isDigit : ∀ c ∈ digits, c.isDigit = true) (positive : 0 < decimalValue digits) :
    decimalDigits (decimalValue digits) = digits.dropWhile (· == '0') := by
  induction digits with
  | nil => exact absurd positive (Nat.lt_irrefl 0)
  | cons c rest ih =>
      obtain ⟨digit, digits⟩ := List.forall_mem_cons.mp isDigit
      by_cases zero : c = '0'
      · subst zero
        exact ih digits positive
      · rw [List.dropWhile_cons_of_neg (by simpa using zero)]
        change decimalDigits (rest.foldl _ (10 * 0 + digitValue c)) = _
        rw [Nat.mul_zero, Nat.zero_add, decimalDigits_foldl digits (digitValue_pos digit zero),
          decimalDigits_digitValue digit, List.singleton_append]

/-- Only zero is printed with a zero in front. -/
theorem head?_decimalDigits {n : Nat} (positive : 0 < n) : (decimalDigits n).head? ≠ some '0' := by
  have isDigit : ∀ c ∈ decimalDigits n, c.isDigit = true := fun c => isDigit_of_mem_decimalDigits
  have stripped := decimalDigits_decimalValue isDigit (by rwa [decimalValue_decimalDigits])
  rw [decimalValue_decimalDigits] at stripped
  rw [stripped]
  intro head
  have kept := List.head?_dropWhile_not (· == '0') (decimalDigits n)
  rw [head] at kept
  exact Bool.false_ne_true kept.symm

end Spreadsheet.Text
