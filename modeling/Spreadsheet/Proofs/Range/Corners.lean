import Spreadsheet.Proofs.Address.Read
import Spreadsheet.Proofs.Formula.WellFormed

/-! Rectangles and their corners: in which order the corners stand, which texts are read as them,
and which cells they share. -/

namespace Spreadsheet

open Spreadsheet.Text

namespace Address

def markedRow (address : Address) : UInt32 × Bool := (address.row, address.rowAbsolute)

def markedColumn (address : Address) : UInt16 × Bool := (address.column, address.columnAbsolute)

end Address

namespace Range

/-- The rectangle has the rows of two corners, in their order and each with its mark, and their
columns likewise. -/
structure Sorts (range : Range) (a b : Address) : Prop where
  ordered : range.Ordered
  rows : [range.first.markedRow, range.last.markedRow].Perm [a.markedRow, b.markedRow]
  columns :
    [range.first.markedColumn, range.last.markedColumn].Perm [a.markedColumn, b.markedColumn]

theorem sorts_spanning (a b : Address) : (spanning a b).Sorts a b := by
  have both (chosen : Prop) [Decidable chosen] :
      [(if chosen then (a, b) else (b, a)).1, (if chosen then (a, b) else (b, a)).2].Perm
        [a, b] := by
    split
    next => rfl
    next => exact .swap a b []
  exact ⟨ordered_spanning a b, (both (a.row ≤ b.row)).map Address.markedRow,
    (both (a.column ≤ b.column)).map Address.markedColumn⟩

/-- There is one way to put two things in order. -/
theorem pair_eq_of_perm {α : Type} [LE α] (antisymm : ∀ x y : α, x ≤ y → y ≤ x → x = y)
    {x y x' y' : α} (perm : [x, y].Perm [x', y']) (ordered : x ≤ y) (ordered' : x' ≤ y') :
    x = x' ∧ y = y' := by
  have sorted : [x, y].Pairwise (· ≤ ·) := by simpa using ordered
  have sorted' : [x', y'].Pairwise (· ≤ ·) := by simpa using ordered'
  have same := perm.eq_of_pairwise (fun _ _ _ _ => antisymm _ _) sorted sorted'
  simpa using same

/-- Cells have no marks, so only the rows and the columns of the corners count. -/
theorem cells_eq_of_sorts {range other : Range} {a b c d : Address} (sorts : range.Sorts a b)
    (sorts' : other.Sorts c d) (rows : [c.row, d.row].Perm [a.row, b.row])
    (columns : [c.column, d.column].Perm [a.column, b.column]) : other.cells = range.cells := by
  have ofRows : [range.first.row, range.last.row].Perm [a.row, b.row] := sorts.rows.map Prod.fst
  have ofColumns : [range.first.column, range.last.column].Perm [a.column, b.column] :=
    sorts.columns.map Prod.fst
  have ofRows' : [other.first.row, other.last.row].Perm [c.row, d.row] := sorts'.rows.map Prod.fst
  have ofColumns' : [other.first.column, other.last.column].Perm [c.column, d.column] :=
    sorts'.columns.map Prod.fst
  obtain ⟨top, bottom⟩ := pair_eq_of_perm (fun _ _ => UInt32.le_antisymm)
    ((ofRows'.trans rows).trans ofRows.symm) sorts'.ordered.1 sorts.ordered.1
  obtain ⟨left, right⟩ := pair_eq_of_perm (fun _ _ => UInt16.le_antisymm)
    ((ofColumns'.trans columns).trans ofColumns.symm) sorts'.ordered.2 sorts.ordered.2
  unfold cells Range.rows Range.columns
  rw [top, bottom, left, right]

/-- The texts that stand for rectangles: an address, or two of them with a colon between. -/
inductive Spells : List Char → Range → Prop
  | one {s : List Char} {address : Address} (names : Address.read s = .ok address) :
      Spells s (.spanning address address)
  | two {front back : List Char} {first last : Address} (left : Address.read front = .ok first)
      (right : Address.read back = .ok last) :
      Spells (front ++ ':' :: back) (.spanning first last)

section Reading

variable {s front back : List Char}

theorem read_of_no_colon (plain : ':' ∉ s) :
    read s = do
      let address ← Address.read s
      return spanning address address := by
  have whole : (trim s).dropWhile (· != ':') = [] := by
    rw [List.dropWhile_eq_nil_iff]
    intro c member
    simpa using ne_of_mem_of_not_mem (mem_of_mem_trim member) plain
  unfold read
  simp only [whole, Address.read_of_trim_eq (trim_trim s)]

/-- Blanks in front of a colon stay with the address there, and those behind it likewise. -/
theorem span_colon (plain : ':' ∉ front) (back : List Char) :
    (trim (front ++ ':' :: back)).takeWhile (· != ':') = skipBlanks front ∧
      (trim (front ++ ':' :: back)).dropWhile (· != ':') = ':' :: trimEnd back := by
  rw [trim_append_cons (by decide)]
  refine takeWhile_dropWhile_append (fun c member => ?_) fun c head => ?_
  · have inside : c ∈ front := (List.dropWhile_suffix _).subset member
    simpa using ne_of_mem_of_not_mem inside plain
  · cases head
    rfl

theorem read_of_colon (plain : ':' ∉ front) (plain' : ':' ∉ back) :
    read (front ++ ':' :: back) = do
      return spanning (← Address.read front) (← Address.read back) := by
  obtain ⟨before, behind⟩ := span_colon plain back
  have last : ':' ∉ trimEnd back :=
    fun member => plain' ((List.rdropWhile_prefix isBlank _).subset member)
  have single : (trimEnd back).contains ':' = false := by simpa using last
  unfold read
  simp only [before, behind, single, Bool.false_eq_true, if_false,
    Address.read_of_trim_eq (trim_skipBlanks front), Address.read_of_trim_eq (trim_trimEnd back)]

theorem read_of_colons (plain : ':' ∉ front) (more : ':' ∈ back) :
    read (front ++ ':' :: back) =
      .error (.notARange (.ofList (trim (front ++ ':' :: back)))) := by
  obtain ⟨-, behind⟩ := span_colon plain back
  have another : (trimEnd back).contains ':' = true := by
    have kept : ':' ∈ trim back := mem_trim (by decide) more
    rw [← trim_trimEnd] at kept
    simpa using mem_of_mem_trim kept
  unfold read
  simp only [behind, another, if_true]

theorem read_eq_ok_iff {range : Range} : read s = .ok range ↔ Spells s range := by
  constructor
  · intro reads
    by_cases colon : ':' ∈ s
    · obtain ⟨front, back, rfl, plain⟩ := List.eq_append_cons_of_mem colon
      by_cases more : ':' ∈ back
      · rw [read_of_colons plain more] at reads
        cases reads
      · rw [read_of_colon plain more] at reads
        obtain ⟨first, left, reads⟩ := exists_ok_of_bind reads
        obtain ⟨last, right, reads⟩ := exists_ok_of_bind reads
        cases reads
        exact .two left right
    · rw [read_of_no_colon colon] at reads
      obtain ⟨address, names, reads⟩ := exists_ok_of_bind reads
      cases reads
      exact .one names
  · rintro (names | ⟨left, right⟩)
    · rw [read_of_no_colon (Address.colon_not_mem names), names]
      rfl
    · rw [read_of_colon (Address.colon_not_mem left) (Address.colon_not_mem right), left, right]
      rfl

end Reading

/-- A rectangle inside the sheet is read back from its print. -/
theorem read_print {range : Range} (ordered : range.Ordered) (inSheet : range.first.InSheet)
    (inSheet' : range.last.InSheet) : read range.print = .ok range := by
  have first := Address.read_print inSheet
  have last := Address.read_print inSheet'
  have whole := spanning_of_ordered ordered
  rw [read_eq_ok_iff]
  unfold print
  split
  next same =>
    have spells := Spells.one first
    rwa [(congrArg (spanning range.first) same).trans whole] at spells
  next =>
    have spells := Spells.two first last
    rwa [whole] at spells

/-- The rectangle of two corners has its first row and column before its last ones, and each keeps
its mark. Corners in order are the corners of their rectangle. In the sheet it is read back from
its print. Texts are read as rectangles just if they are an address, or two with one colon between
them, and blanks around these make no difference. Whichever opposite corners are given, and however
they are marked, the cells are the same. -/
theorem corners_sorted {a b : Address} (inSheet : a.InSheet) (inSheet' : b.InSheet) :
    (spanning a b).Sorts a b ∧
    spanning (spanning a b).first (spanning a b).last = spanning a b ∧
    read (spanning a b).print = .ok (spanning a b) ∧
    (∀ (s : List Char) (range : Range), read s = .ok range ↔ Spells s range) ∧
    (∀ lead s trail : List Char, AllBlank lead → AllBlank trail →
      Address.read (lead ++ (s ++ trail)) = Address.read s) ∧
    ∀ c d : Address, [c.row, d.row].Perm [a.row, b.row] →
      [c.column, d.column].Perm [a.column, b.column] →
        (spanning c d).cells = (spanning a b).cells := by
  have sorts := sorts_spanning a b
  obtain ⟨ordered, first, last⟩ := sound_spanning inSheet inSheet'
  refine ⟨sorts, spanning_of_ordered ordered, read_print ordered first last,
    fun _ _ => read_eq_ok_iff, fun _ s _ leads trails => Address.read_gapped leads trails s, ?_⟩
  exact fun c d => cells_eq_of_sorts sorts (sorts_spanning c d)

/-- Crossed corners in one row, of which the print has marks at both ends. -/
theorem corners_sorted_crossed :
    let a : Address := ⟨2, 1, false, true⟩
    let b : Address := ⟨2, 0, true, false⟩
    let range : Range := ⟨⟨2, 0, false, false⟩, ⟨2, 1, true, true⟩⟩
    a.InSheet ∧ b.InSheet ∧ spanning a b = range ∧ range.Sorts a b ∧
      read "A3:$B$3".toList = .ok range ∧
      (spanning ⟨2, 0, true, true⟩ ⟨2, 1, true, true⟩).cells = range.cells := by
  intro a b range
  have inSheet : a.InSheet := ⟨by decide, by decide⟩
  have inSheet' : b.InSheet := ⟨by decide, by decide⟩
  obtain ⟨sorts, -, back, -, -, same⟩ := corners_sorted inSheet inSheet'
  have print : range.print = "A3:$B$3".toList := by cbv
  exact ⟨inSheet, inSheet', rfl, sorts, print ▸ back, same _ _ (.refl _) (.swap ..)⟩

end Range

end Spreadsheet
