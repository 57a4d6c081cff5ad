import Spreadsheet.Proofs.Address.Read
import Spreadsheet.Proofs.Text.Case

namespace Spreadsheet.Address

open Spreadsheet.Text

theorem takeMark_upperAscii (s : List Char) :
    takeMark (upperAscii s) = ((takeMark s).1, upperAscii (takeMark s).2) := by
  cases s with
  | nil => rfl
  | cons c rest =>
      by_cases dollar : c = '$'
      · subst dollar
        rfl
      · have upper : c.toUpper ≠ '$' := fun same => dollar ((toUpper_eq_iff (by decide)).mp same)
        unfold takeMark
        split
        next same => exact absurd (List.cons.inj same).1 upper
        next => split <;> simp_all

def Shape.upper (shape : Shape) : Shape := { shape with letters := upperAscii shape.letters }

theorem shape?_upperAscii (s : List Char) :
    shape? (upperAscii s) = (shape? s).map Shape.upper := by
  unfold shape?
  simp only [takeMark_upperAscii, takeWhile_upperAscii uncased_isAlpha,
    dropWhile_upperAscii uncased_isAlpha, all_upperAscii uncased_isDigit]
  generalize (takeMark s).2.takeWhile Char.isAlpha = letters
  generalize takeMark ((takeMark s).2.dropWhile Char.isAlpha) = behind
  have empty (t : List Char) : (upperAscii t).isEmpty = t.isEmpty := List.isEmpty_map
  rw [empty, empty]
  split
  next => rfl
  next digits =>
    simp only [Bool.or_eq_true, not_or, Bool.not_eq_true', Bool.not_eq_false, List.all_eq_true]
      at digits
    rw [upperAscii_eq_self digits.2]
    rfl

theorem letterValue_toUpper (c : Char) : letterValue c.toUpper = letterValue c := by
  unfold letterValue
  rw [Char.toUpper_toUpper_eq_toUpper]

theorem columnValue_upperAscii {reached value : Nat} {letters : List Char} :
    columnValue reached (upperAscii letters) = .ok value ↔
      columnValue reached letters = .ok value := by
  induction letters generalizing reached with
  | nil => rfl
  | cons c rest ih =>
      change columnValue reached (c.toUpper :: upperAscii rest) = _ ↔ _
      simp only [columnValue, uncased_isAlpha c, letterValue_toUpper]
      split
      next =>
        split
        next => exact ih
        next => rfl
      next => constructor <;> rintro ⟨⟩

theorem columnOfLetters_upperAscii {letters : List Char} {column : UInt16} :
    columnOfLetters (upperAscii letters) = .ok column ↔ columnOfLetters letters = .ok column := by
  have filled : upperAscii letters ≠ [] ↔ letters ≠ [] := List.map_eq_nil_iff.not
  simp only [columnOfLetters_eq_ok_iff, columnValue_upperAscii, filled]

theorem read_upperAscii {s : List Char} {address : Address} :
    read (upperAscii s) = .ok address ↔ read s = .ok address := by
  unfold read
  dsimp only
  rw [trim_upperAscii, shape?_upperAscii]
  cases shape? (trim s) with
  | none => exact ⟨nofun, nofun⟩
  | some shape =>
      change ofShape _ shape.upper = _ ↔ ofShape _ shape = _
      rw [ofShape_eq_ok_iff, ofShape_eq_ok_iff]
      simp only [Shape.upper, columnOfLetters_upperAscii]

/-- Letters that differ in case only read as the same address. -/
theorem read_congr {s t : List Char} {address : Address} (same : upperAscii s = upperAscii t)
    (reads : read s = .ok address) : read t = .ok address := by
  rwa [← read_upperAscii, ← same, read_upperAscii]

end Spreadsheet.Address
