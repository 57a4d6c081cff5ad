namespace Spreadsheet.Text

/-- Both ends belong to a range. -/
abbrev CodeRanges := List (Nat × Nat)

namespace CodeRanges

def contains (ranges : CodeRanges) (c : Char) : Bool :=
  ranges.any fun range => range.1 ≤ c.toNat && c.toNat ≤ range.2

@[simp] theorem contains_nil (c : Char) : contains [] c = false := rfl

@[simp] theorem contains_cons (range : Nat × Nat) (ranges : CodeRanges) (c : Char) :
    contains (range :: ranges) c =
      ((range.1 ≤ c.toNat && c.toNat ≤ range.2) || ranges.contains c) := rfl

end CodeRanges

end Spreadsheet.Text
