import Spreadsheet.Proofs.Grid.Editing

/-! Writes of cells in any order. What was written last at each position decides the grid, with all
the rows and blanks that the writes put in on their way. -/

namespace Spreadsheet

namespace Write

def position (write : Write) : UInt32 × UInt16 := (write.row, write.column)

theorem eq_of_position {write other : Write} (position : write.position = other.position)
    (cell : write.cell = other.cell) : write = other := by
  obtain ⟨row, column⟩ := Prod.mk.inj position
  cases write
  cases other
  cases row
  cases column
  cases cell
  rfl

end Write

namespace Grid

section Items

variable {α : Type} (blank : α)

theorem putAt_putAt (put again : α → α) (place : Nat) (items : List α) :
    putAt blank again place (putAt blank put place items) =
      putAt blank (again ∘ put) place items := by
  induction place generalizing items with
  | zero => cases items <;> rfl
  | succ place ih => cases items <;> simp [putAt, ih]

/-- Whichever place is filled up to first, the other one finds the blanks it needs, or puts in the
rest of them. -/
theorem putAt_comm {place other : Nat} (apart : place ≠ other) (put put' : α → α)
    (items : List α) :
    putAt blank put place (putAt blank put' other items) =
      putAt blank put' other (putAt blank put place items) := by
  induction place generalizing other items with
  | zero =>
      cases other with
      | zero => exact absurd rfl apart
      | succ other => cases items <;> rfl
  | succ place ih =>
      cases other with
      | zero => cases items <;> rfl
      | succ other =>
          have behind : place ≠ other := fun same => apart (congrArg Nat.succ same)
          cases items <;> simp [putAt, ih behind]

end Items

def put (grid : Grid) (write : Write) : Grid := grid.write write.row write.column write.cell

section Pairs

variable {first second : Write}

theorem put_put (same : first.position = second.position) (grid : Grid) :
    (grid.put first).put second = grid.put second := by
  obtain ⟨row, column⟩ := Prod.mk.inj same
  unfold put Grid.write
  rw [row, column, putAt_putAt]
  refine congrArg (fun row => Grid.mk (putAt [] row _ _)) (funext fun cells => ?_)
  exact putAt_putAt ..

theorem put_comm (apart : first.position ≠ second.position) (grid : Grid) :
    (grid.put first).put second = (grid.put second).put first := by
  unfold put Grid.write
  by_cases row : first.row = second.row
  · have column : second.column.toNat ≠ first.column.toNat := fun same =>
      apart (Prod.ext row (UInt16.toNat_inj.mp same).symm)
    rw [row, putAt_putAt, putAt_putAt]
    refine congrArg (fun row => Grid.mk (putAt [] row _ _)) (funext fun cells => ?_)
    exact putAt_comm _ column ..
  · have places : second.row.toNat ≠ first.row.toNat := fun same =>
      row (UInt32.toNat_inj.mp same).symm
    exact congrArg Grid.mk (putAt_comm _ places ..)

end Pairs

def putAll (grid : Grid) (writes : List Write) : Grid := writes.foldl put grid

theorem putAll_concat (grid : Grid) (writes : List Write) (last : Write) :
    grid.putAll (writes ++ [last]) = (grid.putAll writes).put last := List.foldl_concat ..

end Grid

/-- The writes at other positions. -/
def elsewhere (position : UInt32 × UInt16) (writes : List Write) : List Write :=
  writes.filter fun write => write.position ≠ position

section Last

variable {position : UInt32 × UInt16} {last : Write} (writes : List Write)

theorem elsewhere_concat_of_eq (here : last.position = position) :
    elsewhere position (writes ++ [last]) = elsewhere position writes := by
  simp [elsewhere, here]

theorem elsewhere_concat_of_ne (there : last.position ≠ position) :
    elsewhere position (writes ++ [last]) = elsewhere position writes ++ [last] := by
  simp [elsewhere, there]

theorem length_elsewhere_lt {write : Write} (member : write ∈ writes) :
    (elsewhere write.position writes).length < writes.length :=
  List.length_filter_lt_length_iff_exists.mpr ⟨write, member, by simp⟩

theorem lastWritten?_concat :
    lastWritten? position.1 position.2 (writes ++ [last]) =
      if last.position = position then some last.cell
      else lastWritten? position.1 position.2 writes := by
  unfold lastWritten? Write.position
  rw [List.reverse_append, List.reverse_singleton, List.singleton_append, List.find?_cons]
  by_cases here : last.row = position.1 ∧ last.column = position.2
  · simp [here]
  · rw [decide_eq_false here, if_neg fun same => here (Prod.mk.inj same)]

theorem lastWritten?_elsewhere (other : UInt32 × UInt16) :
    lastWritten? other.1 other.2 (elsewhere position writes) =
      if other = position then none else lastWritten? other.1 other.2 writes := by
  induction writes using List.reverseRecOn with
  | nil => split <;> rfl
  | append_singleton writes last ih =>
      by_cases here : last.position = position
      · rw [elsewhere_concat_of_eq writes here, ih, lastWritten?_concat, here]
        split
        next => rfl
        next outside => rw [if_neg (Ne.symm outside)]
      · rw [elsewhere_concat_of_ne writes here, lastWritten?_concat, lastWritten?_concat, ih]
        split
        next same => rw [if_neg (same ▸ here)]
        next => rfl

theorem exists_lastWritten? {write : Write} (member : write ∈ writes) :
    ∃ cell, lastWritten? write.row write.column writes = some cell := by
  have found : (writes.reverse.find? fun other =>
      other.row = write.row ∧ other.column = write.column).isSome := by
    rw [List.find?_isSome]
    exact ⟨write, List.mem_reverse.mpr member, by simp⟩
  obtain ⟨other, found⟩ := Option.isSome_iff_exists.mp found
  exact ⟨other.cell, congrArg (Option.map Write.cell) found⟩

end Last

namespace Grid

section Last

variable (grid : Grid) (writes : List Write)

/-- To write again what was written last at a position changes nothing. -/
theorem put_of_lastWritten? {write : Write}
    (last : lastWritten? write.row write.column writes = some write.cell) :
    (grid.putAll writes).put write = grid.putAll writes := by
  induction writes using List.reverseRecOn with
  | nil => cases last
  | append_singleton writes other ih =>
      change lastWritten? write.position.1 write.position.2 _ = _ at last
      rw [lastWritten?_concat] at last
      rw [putAll_concat]
      split at last
      next same =>
        obtain rfl := Write.eq_of_position same (Option.some.inj last)
        exact put_put rfl _
      next apart => rw [put_comm apart, ih last]

/-- A write hides those before it at its position. -/
theorem put_elsewhere (write : Write) :
    (grid.putAll (elsewhere write.position writes)).put write = (grid.putAll writes).put write := by
  induction writes using List.reverseRecOn with
  | nil => rfl
  | append_singleton writes other ih =>
      rw [putAll_concat]
      by_cases here : other.position = write.position
      · rw [elsewhere_concat_of_eq writes here, put_put here, ih]
      · rw [elsewhere_concat_of_ne writes here, putAll_concat, put_comm here, ih, put_comm here]

/-- Writes at a position as one write at the end, of the cell that was written there last. -/
theorem putAll_eq {write : Write}
    (last : lastWritten? write.row write.column writes = some write.cell) :
    grid.putAll writes = (grid.putAll (elsewhere write.position writes)).put write := by
  rw [put_elsewhere, put_of_lastWritten? grid writes last]

/-- Runs of writes that write the same cell last at each position. -/
theorem putAll_congr {others : List Write}
    (same : ∀ row column, lastWritten? row column writes = lastWritten? row column others) :
    grid.putAll writes = grid.putAll others := by
  -- by the number of writes: those at the position of the first one become one at the end
  induction length : writes.length using Nat.strong_induction_on generalizing writes others with
  | _ length' ih =>
      cases writes with
      | nil =>
          cases others with
          | nil => rfl
          | cons other others =>
              obtain ⟨cell, last⟩ := exists_lastWritten? _ (List.mem_cons_self (a := other))
              exact absurd ((same _ _).trans last) nofun
      | cons first writes =>
          obtain ⟨cell, last⟩ := exists_lastWritten? _ (List.mem_cons_self (a := first))
          have fewer := length_elsewhere_lt _ (List.mem_cons_self (a := first) (l := writes))
          let write : Write := ⟨first.row, first.column, cell⟩
          have elsewhere_same : ∀ row column,
              lastWritten? row column (elsewhere write.position (first :: writes)) =
                lastWritten? row column (elsewhere write.position others) := fun row column => by
            rw [lastWritten?_elsewhere _ (row, column), lastWritten?_elsewhere _ (row, column),
              same]
          have here : lastWritten? write.row write.column (first :: writes) = some write.cell :=
            last
          have there : lastWritten? write.row write.column others = some write.cell :=
            (same _ _).symm.trans last
          rw [grid.putAll_eq _ here, grid.putAll_eq _ there,
            ih _ (length ▸ fewer) _ elsewhere_same rfl]

end Last

/-- Writes at different positions give the same grid in either order, with the same rows and the
same blanks, and so the same snapshot. Of two writes at one position only the later one counts. In
a run of writes, then, only the last one at each position counts, and not their order. -/
theorem writes_commute (grid : Grid) {p q : UInt32 × UInt16} (apart : p ≠ q) (x y : Cell) :
    (grid.write p.1 p.2 x).write q.1 q.2 y = (grid.write q.1 q.2 y).write p.1 p.2 x ∧
      (grid.write p.1 p.2 x).write p.1 p.2 y = grid.write p.1 p.2 y ∧
      ∀ writes others : List Write,
        (∀ row column, lastWritten? row column writes = lastWritten? row column others) →
          grid.putAll writes = grid.putAll others := by
  let first : Write := ⟨p.1, p.2, x⟩
  let again : Write := ⟨p.1, p.2, y⟩
  let second : Write := ⟨q.1, q.2, y⟩
  have elsewhere : first.position ≠ second.position := apart
  have here : first.position = again.position := rfl
  exact ⟨put_comm elsewhere grid, put_put here grid,
    fun writes _ same => grid.putAll_congr writes same⟩

/-- Below and behind the cells of a ragged grid, where each write puts in blanks. -/
theorem writes_commute_ragged :
    let grid : Grid := .ofValues [["a"], []]
    ((3, 0) : UInt32 × UInt16) ≠ (1, 2) ∧
      (grid.write 3 0 (.plain "x")).write 1 2 (.plain "y") =
        .ofValues [["a"], ["", "", "y"], [], ["x"]] ∧
      (grid.write 1 2 (.plain "y")).write 3 0 (.plain "x") =
        .ofValues [["a"], ["", "", "y"], [], ["x"]] := by
  intro grid
  have apart : ((3, 0) : UInt32 × UInt16) ≠ (1, 2) := by decide
  have filled : (grid.write 3 0 (.plain "x")).write 1 2 (.plain "y") =
      .ofValues [["a"], ["", "", "y"], [], ["x"]] := rfl
  exact ⟨apart, filled, (writes_commute grid apart _ _).1.symm.trans filled⟩

end Grid

end Spreadsheet
