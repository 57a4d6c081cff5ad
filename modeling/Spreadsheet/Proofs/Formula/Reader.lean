import Mathlib
import Spreadsheet.Proofs.Formula.Grammar

namespace Spreadsheet.Formula

open Reader

/-- What a reader finds and where it stops, without the cause if it fails. -/
def accepted (reader : Reader α) (cursor : Cursor) : Option (α × Cursor) :=
  (reader.run cursor).toOption

def Tier.operator? : Tier → Token → Option BinaryOp
  | .comparison => comparison?
  | .concatenation => concatenation?
  | .addition => addition?
  | .multiplication => multiplication?
  | _ => fun _ => none

theorem Tier.operator?_eq_some_iff {tier : Tier} {token : Token} {op : BinaryOp} :
    tier.operator? token = some op ↔
      ∃ mark, token = .mark mark ∧ mark.join? = some (tier, op) := by
  constructor
  · intro found
    cases token with
    | mark mark =>
        refine ⟨mark, rfl, ?_⟩
        cases tier <;> cases mark <;> cases found <;> rfl
    | _ => cases tier <;> cases found
  · rintro ⟨mark, rfl, joins⟩
    cases mark <;> cases joins <;> rfl

variable {limits : Limits} {cursor : Cursor}

@[simp] theorem accepted_pure (a : α) : accepted (pure a) cursor = some (a, cursor) := rfl

@[simp] theorem accepted_throw (error : SyntaxError) :
    accepted (throw error : Reader α) cursor = none := rfl

@[simp] theorem accepted_bind (reader : Reader α) (next : α → Reader β) :
    accepted (reader >>= next) cursor =
      (accepted reader cursor).bind fun found => accepted (next found.1) found.2 := by
  simp only [accepted, StateT.run_bind]
  cases reader.run cursor <;> rfl

@[simp] theorem accepted_get : accepted get cursor = some (cursor, cursor) := rfl

@[simp] theorem accepted_modify (change : Cursor → Cursor) :
    accepted (modify change) cursor = some ((), change cursor) := rfl

@[simp] theorem accepted_peek : accepted peek cursor = some (cursor.rest.head?, cursor) := rfl

@[simp] theorem accepted_advance :
    accepted advance cursor = some ((), { cursor with rest := cursor.rest.tail }) := rfl

@[simp] theorem accepted_next :
    accepted next cursor =
      some (cursor.rest.head?, { cursor with rest := cursor.rest.tail }) := rfl

theorem accepted_expect (wanted : Mark) :
    accepted (expect wanted) cursor =
      if cursor.rest.head? = some (.mark wanted) then
        some ((), { cursor with rest := cursor.rest.tail })
      else none := by
  simp only [expect, accepted_bind, accepted_peek, Option.bind_some]
  split <;> simp

theorem accepted_nested (inner : Reader α) :
    accepted (nested limits inner) cursor =
      if cursor.depth + 1 ≤ limits.depth then
        (accepted inner { cursor with depth := cursor.depth + 1 }).map fun found =>
          (found.1, { found.2 with depth := cursor.depth })
      else none := by
  simp only [nested, accepted_bind, accepted_get, Option.bind_some]
  split <;> rename_i outside
  · simp [Nat.not_le.mpr outside]
  · rw [if_pos (Nat.not_lt.mp outside)]
    simp only [accepted_bind, accepted_modify, accepted_pure, Option.bind_some]
    cases accepted inner _ <;> rfl

theorem accepted_operator :
    accepted (operator limits) cursor =
      if cursor.operators + 1 ≤ limits.operators then
        some ((), { cursor with rest := cursor.rest.tail, operators := cursor.operators + 1 })
      else none := by
  simp only [operator, accepted_bind, accepted_get, Option.bind_some]
  split <;> rename_i outside
  · simp [Nat.not_le.mpr outside]
  · rw [if_pos (Nat.not_lt.mp outside)]
    simp

end Spreadsheet.Formula
