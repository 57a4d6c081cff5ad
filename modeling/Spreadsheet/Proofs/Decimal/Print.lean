import Spreadsheet.Proofs.Decimal.Numeral

namespace Spreadsheet.Decimal

open Spreadsheet.Text

def PowerOfTen.print (power : PowerOfTen) : List Char :=
  'e' :: (if power.negative then '-' else '+') :: power.digits

namespace Numeral

/-- A power is printed with its sign. -/
def print (numeral : Numeral) : List Char :=
  numeral.whole ++ numeral.fraction.elim [] (List.cons '.') ++
    numeral.power.elim [] PowerOfTen.print

/-- Digits in all places, with one at least in front of a point and in a power. -/
structure Valid (numeral : Numeral) : Prop where
  whole_ne_nil : numeral.whole ≠ []
  isDigit_whole : ∀ c ∈ numeral.whole, c.isDigit = true
  isDigit_fraction : ∀ fraction ∈ numeral.fraction, ∀ c ∈ fraction, c.isDigit = true
  power_ne_nil : ∀ power ∈ numeral.power, power.digits ≠ []
  isDigit_power : ∀ power ∈ numeral.power, ∀ c ∈ power.digits, c.isDigit = true

/-- No zeros lead the digits, and digits follow a point. -/
structure Plain (numeral : Numeral) : Prop where
  whole_eq : numeral.whole.head? = some '0' → numeral.whole = ['0']
  fraction_ne_nil : numeral.fraction ≠ some []

end Numeral

theorem spanDigits_append_of_isDigit {digits rest : List Char}
    (isDigit : ∀ c ∈ digits, c.isDigit = true)
    (stops : ∀ c, rest.head? = some c → c.isDigit = false) :
    spanDigits (digits ++ rest) = (digits, rest) := by
  have parts := takeWhile_dropWhile_append isDigit stops
  exact Prod.ext parts.1 parts.2

theorem spanDigits_of_isDigit {digits : List Char} (isDigit : ∀ c ∈ digits, c.isDigit = true) :
    spanDigits digits = (digits, []) := by
  have parts : spanDigits (digits ++ []) = (digits, []) :=
    spanDigits_append_of_isDigit isDigit nofun
  rwa [List.append_nil] at parts

theorem scanPower_print {power : PowerOfTen} (filled : power.digits ≠ [])
    (isDigit : ∀ c ∈ power.digits, c.isDigit = true) :
    scanPower power.print = (some power, []) := by
  obtain ⟨negative, digits⟩ := power
  have sign : scanSign ((if negative then '-' else '+') :: digits) = (negative, digits) := by
    cases negative <;> rfl
  unfold PowerOfTen.print scanPower
  dsimp only
  rw [sign, spanDigits_of_isDigit isDigit]
  dsimp only at filled ⊢
  rw [if_pos (by simp [isPowerMark, filled])]

namespace Numeral

variable {numeral : Numeral}

theorem eq_of_head?_power (power : Option PowerOfTen) {c : Char}
    (head : (power.elim [] PowerOfTen.print).head? = some c) : c = 'e' := by
  cases power with
  | none => cases head
  | some power => exact (Option.some.inj head).symm

namespace Valid

variable (valid : numeral.Valid)

include valid

theorem scanPower_eq :
    scanPower (numeral.power.elim [] PowerOfTen.print) = (numeral.power, []) := by
  cases same : numeral.power with
  | none => rfl
  | some power =>
      exact scanPower_print (valid.power_ne_nil power same) (valid.isDigit_power power same)

theorem scanFraction_eq :
    scanFraction (numeral.fraction.elim [] (List.cons '.') ++
      numeral.power.elim [] PowerOfTen.print) =
        (numeral.fraction, numeral.power.elim [] PowerOfTen.print) := by
  cases same : numeral.fraction with
  | none =>
      refine scanFraction_of_head? fun head => ?_
      cases eq_of_head?_power numeral.power head
  | some fraction =>
      have spans : spanDigits (fraction ++ numeral.power.elim [] PowerOfTen.print) =
          (fraction, numeral.power.elim [] PowerOfTen.print) := by
        refine spanDigits_append_of_isDigit (valid.isDigit_fraction fraction same) fun c head => ?_
        rw [eq_of_head?_power numeral.power head]
        rfl
      exact congrArg (fun parts => (some parts.1, parts.2)) spans

/-- The scanner takes all of a print. -/
theorem scan_print : scan numeral.print = (numeral, []) := by
  have spans : spanDigits numeral.print =
      (numeral.whole, numeral.fraction.elim [] (List.cons '.') ++
        numeral.power.elim [] PowerOfTen.print) := by
    unfold print
    rw [List.append_assoc]
    refine spanDigits_append_of_isDigit valid.isDigit_whole fun c head => ?_
    cases same : numeral.fraction with
    | none =>
        rw [same] at head
        rw [eq_of_head?_power numeral.power head]
        rfl
    | some fraction =>
        rw [same] at head
        cases head
        rfl
  unfold scan
  simp only [spans, valid.scanFraction_eq, valid.scanPower_eq]

theorem startsNumeral_print : startsNumeral numeral.print = true := by
  obtain ⟨c, others, whole⟩ := List.exists_cons_of_ne_nil valid.whole_ne_nil
  have first : c ∈ numeral.whole := by simp [whole]
  unfold print
  rw [whole]
  exact startsNumeral_of_isDigit (valid.isDigit_whole c first) _

theorem isDigit_of_mem_digits {c : Char} (member : c ∈ numeral.digits) : c.isDigit = true := by
  rcases List.mem_append.mp member with whole | fraction
  · exact valid.isDigit_whole c whole
  · cases same : numeral.fraction with
    | none =>
        rw [same] at fraction
        cases fraction
    | some digits =>
        rw [same] at fraction
        exact valid.isDigit_fraction digits same c fraction

theorem read?_print : read? numeral.print = some numeral := by
  have filled : numeral.digits.isEmpty = false := by
    simp [digits, valid.whole_ne_nil]
  unfold read?
  rw [valid.scan_print]
  dsimp only
  rw [filled, if_neg Bool.false_ne_true]

/-- A minus in front is the sign of the number. -/
theorem readFloat?_print (negative : Bool) :
    readFloat? ((if negative then ['-'] else []) ++ numeral.print) =
      some (numeral.toFloat negative) := by
  have sign : scanSign ((if negative then ['-'] else []) ++ numeral.print) =
      (negative, numeral.print) := by
    cases negative with
    | false => exact scanSign_of_startsNumeral valid.startsNumeral_print
    | true => rfl
  unfold readFloat?
  rw [sign, valid.read?_print]
  rfl

theorem visible_of_mem_print {c : Char} (member : c ∈ numeral.print) : isBlank c = false := by
  refine visible_of_scan member ?_
  rw [valid.scan_print]
  exact List.not_mem_nil

end Valid

end Numeral

end Spreadsheet.Decimal
