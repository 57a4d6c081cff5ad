import Spreadsheet.Proofs.Address.Read
import Spreadsheet.Proofs.Evaluation.WellFormed
import Spreadsheet.Proofs.Formula.RoundTrip
import Spreadsheet.Proofs.Formula.Spacing
import Spreadsheet.Proofs.Range.Corners

namespace Spreadsheet

open Spreadsheet.Text

/-- What is read as a range has a corner on either side of its colon. -/
theorem Range.exists_corners {s : List Char} {range : Range} (colon : ':' ∈ s)
    (names : read s = .ok range) :
    ∃ front back first last, trim s = front ++ ':' :: back ∧ Address.read front = .ok first ∧
      Address.read back = .ok last ∧ range = .spanning first last := by
  cases read_eq_ok_iff.mp names with
  | one single => exact absurd colon (Address.colon_not_mem single)
  | @two front back first last left right =>
      refine ⟨skipBlanks front, trimEnd back, first, last, trim_append_cons (by decide) .., ?_, ?_,
        rfl⟩
      · rwa [Address.read_of_trim_eq (trim_skipBlanks front)]
      · rwa [Address.read_of_trim_eq (trim_trimEnd back)]

namespace Formula

theorem tokens_body_signed (source : String) :
    tokens (body ("=" ++ source).toList) = tokens (trim source.toList) := by
  rw [String.toList_append]
  generalize source.toList = s
  have blank : AllBlank (s.takeWhile isBlank) := fun c => List.mem_takeWhile_imp
  calc tokens (body ([] ++ '=' :: s))
    _ = tokens (trimEnd (s.takeWhile isBlank ++ skipBlanks s)) := by
        rw [body_signed (List.forall_mem_nil _), skipBlanks, List.takeWhile_append_dropWhile]
    _ = tokens (trimEnd (skipBlanks s)) := tokens_trimEnd_gap blank _

/-- Whatever is read as an address is one token, with the blanks around it, wherever a phrase may
end behind it. -/
theorem tokens_reference {s rest : List Char} {address : Address}
    (names : Address.read s = .ok address) (stops : Stops rest) :
    ∃ spelling, tokens (s ++ rest) = .reference spelling :: tokens rest ∧
      Address.read spelling.toList = .ok address := by
  obtain ⟨shape, valid, short, trimmed, reads⟩ := Address.exists_shape_of_read names
  obtain ⟨lead, trail, leads, trails, parts⟩ := exists_trim s
  have ends (c : Char) (head : (trail ++ rest).head? = some c) : continuesWord c = false := by
    cases trail with
    | nil => exact stops.continuesWord_eq_false head
    | cons first others =>
        cases head
        by_contra continues
        rw [Bool.not_eq_false] at continues
        have visible := isBlank_of_continuesWord continues
        exact Bool.false_ne_true (visible.symm.trans (trails c List.mem_cons_self))
  have noCall : startsCall (trail ++ rest) = false :=
    (startsCall_append_blank trails rest).trans stops.startsCall_eq_false
  refine ⟨.ofList shape.print, ?_, by rwa [String.toList_ofList]⟩
  calc tokens (s ++ rest)
    _ = tokens (lead ++ (shape.print ++ (trail ++ rest))) := by
        rw [← trimmed, ← List.append_assoc (trim s), ← List.append_assoc lead, ← parts]
    _ = tokens (shape.print ++ (trail ++ rest)) := tokens_append_blank leads _
    _ = .reference (.ofList shape.print) :: tokens (trail ++ rest) := by
        rw [tokens_word (isWord_print valid) ends, noCall, wordToken_print valid short]
    _ = .reference (.ofList shape.print) :: tokens rest := by rw [tokens_append_blank trails]

/-- No address begins with an equals sign. -/
theorem body_reference {s : List Char} {address : Address} (names : Address.read s = .ok address) :
    body s = trim s := by
  obtain ⟨shape, valid, -, trimmed, -⟩ := Address.exists_shape_of_read names
  obtain ⟨c, others, print, first⟩ := valid.print_eq_cons
  have plain : c ≠ '=' := by
    rintro rfl
    rcases first with dollar | alpha
    · cases dollar
    · cases alpha
  unfold body
  rw [trimmed, print]
  split
  next same => exact absurd (List.cons.inj same).1 plain
  next => rfl

theorem derives_reference {s : List Char} {address : Address}
    (names : Address.read s = .ok address) : Derives .primary 0 (tokens s) (.cell address) := by
  obtain ⟨spelling, found, reads⟩ := tokens_reference names .nil
  rw [List.append_nil, tokens_nil] at found
  rw [found]
  exact .cell reads

theorem derives_range {front back : List Char} {first last : Address}
    (ofFirst : Address.read front = .ok first) (ofLast : Address.read back = .ok last) :
    Derives .range 0 (tokens (front ++ ':' :: back)) (.range (.spanning first last)) := by
  have closes : Mark.colon ≠ .leftParen := by decide
  obtain ⟨spelling, found, reads⟩ := tokens_reference ofFirst (Stops.symbol closes back)
  have colon : tokens (Mark.colon.symbol ++ back) = .mark .colon :: tokens back :=
    tokens_symbol .colon rfl
  have whole : tokens (front ++ ':' :: back) = .reference spelling :: .mark .colon :: tokens back :=
    found.trans (congrArg _ colon)
  rw [whole, ← List.singleton_append]
  exact .range (.cell reads) (derives_reference ofLast)

section Parsing

variable {options : Options} (deep : 0 < options.maxDepth.toNat) {source : String}

include deep

/-- Neither the depth nor the number of operators is limited for phrases without either. -/
theorem parse_of_flat {formula : String} (tier : Tier) {e : Expr}
    (phrase : Derives tier 0 (tokens (body formula.toList)) e) (plain : e.operatorCount = 0) :
    options.parse formula = .ok e :=
  parse_eq_ok_iff.mpr ⟨0, phrase.loosen .comparison (Tier.rank_bounds _).2, deep,
    plain ▸ Nat.zero_le _⟩

/-- Whatever is read as an address alone is a reference behind an equals sign. -/
theorem parse_reference {address : Address} (names : Address.read source.toList = .ok address) :
    options.parse ("=" ++ source) = .ok (.cell address) := by
  refine parse_of_flat deep .primary ?_ rfl
  rw [tokens_body_signed]
  exact derives_reference ((Address.read_of_trim_eq (trim_trim _)).trans names)

/-- An address is no different as a formula without an equals sign. -/
theorem parse_bare_reference {address : Address}
    (names : Address.read source.toList = .ok address) :
    options.parse source = .ok (.cell address) := by
  refine parse_of_flat deep .primary ?_ rfl
  rw [body_reference names]
  exact derives_reference ((Address.read_of_trim_eq (trim_trim _)).trans names)

/-- Whatever is read as a range of two corners is that range behind an equals sign. -/
theorem parse_range {range : Range} (colon : ':' ∈ source.toList)
    (names : Range.read source.toList = .ok range) :
    options.parse ("=" ++ source) = .ok (.range range) := by
  obtain ⟨front, back, first, last, parts, ofFirst, ofLast, rfl⟩ := Range.exists_corners colon names
  refine parse_of_flat deep .range ?_ rfl
  rw [tokens_body_signed, parts]
  exact derives_range ofFirst ofLast

end Parsing

end Formula

theorem Value.exists_toText (s : String) : ∃ shown, (ofCellText s).toText = .ok shown := by
  have entry := isEntry_ofCellText s
  cases value : ofCellText s with
  | number n =>
      rw [value] at entry
      exact ⟨_, if_pos entry⟩
  | text shown => exact ⟨shown, rfl⟩
  | empty => exact ⟨"", rfl⟩
  | boolean | array =>
      rw [value] at entry
      exact entry.elim

namespace Grid

theorem value_reference {grid : Grid} {options : Options} {source : String} {address : Address}
    (deep : 0 < options.maxDepth.toNat) (names : Address.read source.toList = .ok address) :
    grid.value options ("=" ++ source) = .ok (grid.typedCell address) := by
  unfold Grid.value
  rw [Formula.parse_reference deep names]
  rfl

/-- Texts that are read as addresses and ranges are the references of formulas. An address parses
as the same cell with and without an equals sign, and the formula shows what the text in that cell
is worth; two corners with a colon parse as the same range. Blanks, marks, case and leading zeros
make no difference. -/
theorem references_agree {options : Options} (deep : 0 < options.maxDepth.toNat)
    (source : String) :
    (∀ address, Address.read source.toList = .ok address →
      options.parse source = .ok (.cell address) ∧
      options.parse ("=" ++ source) = .ok (.cell address) ∧
      ∀ grid : Grid, ∃ shown,
        (Value.ofCellText (grid.valueAt address.row address.column)).toText = .ok shown ∧
        grid.text options ("=" ++ source) = .ok shown) ∧
    ∀ range, ':' ∈ source.toList → Range.read source.toList = .ok range →
      options.parse ("=" ++ source) = .ok (.range range) := by
  refine ⟨fun address names => ?_, fun range => Formula.parse_range deep⟩
  refine ⟨Formula.parse_bare_reference deep names, Formula.parse_reference deep names, ?_⟩
  intro grid
  obtain ⟨shown, text⟩ := Value.exists_toText (grid.valueAt address.row address.column)
  refine ⟨shown, text, ?_⟩
  unfold Grid.text
  rw [value_reference deep names]
  exact text

/-- With every part of the notation that is not kept. -/
theorem references_agree_spaced :
    let grid : Grid := .ofValues [["", "x"]]
    Address.read " b$001\n".toList = .ok ⟨0, 1, true, false⟩ ∧
      Options.standard.parse " b$001\n" = .ok (.cell ⟨0, 1, true, false⟩) ∧
      grid.text .standard "= b$001\n" = .ok "x" ∧
      Range.read "\tC5 : $a1".toList = .ok ⟨⟨0, 0, false, true⟩, ⟨4, 2, false, false⟩⟩ ∧
      Options.standard.parse "=\tC5 : $a1" =
        .ok (.range ⟨⟨0, 0, false, true⟩, ⟨4, 2, false, false⟩⟩) := by
  intro grid
  have deep : 0 < Options.standard.maxDepth.toNat := by decide
  have names : Address.read " b$001\n".toList = .ok ⟨0, 1, true, false⟩ := by decide
  have covers : Range.read "\tC5 : $a1".toList =
      .ok ⟨⟨0, 0, false, true⟩, ⟨4, 2, false, false⟩⟩ := by decide
  obtain ⟨bare, -, shows⟩ := (references_agree deep " b$001\n").1 _ names
  obtain ⟨shown, same, text⟩ := shows grid
  have typed : Value.ofCellText (grid.valueAt 0 1) = .text "x" := by cbv
  rw [typed] at same
  cases same
  exact ⟨names, bare, text, covers, (references_agree deep "\tC5 : $a1").2 _ (by decide) covers⟩

end Grid

end Spreadsheet
