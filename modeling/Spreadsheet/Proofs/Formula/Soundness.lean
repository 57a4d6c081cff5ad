import Spreadsheet.Proofs.Formula.Grammar
import Spreadsheet.Proofs.Formula.Reader

/-! What readers find, the grammar derives. -/

namespace Spreadsheet.Formula

open Spreadsheet.Text
open Reader

/-- Whatever the reader finds, it took the tokens of a phrase that means it. -/
def Sound (tier : Tier) (reader : Reader Expr) : Prop :=
  ∀ ⦃cursor e after⦄, accepted reader cursor = some (e, after) →
    ∃ depth tokens, cursor.rest = tokens ++ after.rest ∧ Derives tier depth tokens e

def Phrase.tier : Phrase → Tier
  | .expression => .comparison
  | .power => .power
  | .operand => .sign

section Steps

variable {limits : Limits} {cursor after : Cursor}

theorem eq_cons_of_head? {rest : List Token} {token : Token} (head : rest.head? = some token) :
    rest = token :: rest.tail := by
  cases rest with
  | nil => cases head
  | cons first others => cases head; rfl

theorem accepted_expect_eq_some {wanted : Mark} {found : Unit}
    (accepts : accepted (expect wanted) cursor = some (found, after)) :
    cursor.rest = .mark wanted :: after.rest := by
  rw [accepted_expect] at accepts
  split at accepts
  next head => cases accepts; exact eq_cons_of_head? head
  next => cases accepts

theorem accepted_operator_eq_some {found : Unit}
    (accepts : accepted (operator limits) cursor = some (found, after)) :
    after.rest = cursor.rest.tail := by
  rw [accepted_operator] at accepts
  split at accepts <;> cases accepts
  rfl

theorem Sound.nested {tier : Tier} {reader : Reader Expr} (sound : Sound tier reader) :
    Sound tier (nested limits reader) := by
  intro cursor e after accepts
  rw [accepted_nested] at accepts
  split at accepts
  · obtain ⟨⟨found, stop⟩, inside, same⟩ := Option.map_eq_some_iff.1 accepts
    cases same
    obtain ⟨depth, tokens, rest, phrase⟩ := sound inside
    exact ⟨depth, tokens, rest, phrase⟩
  · cases accepts

end Steps

section Chains

variable {limits : Limits} {tier inner : Tier} {operand : Reader Expr}

theorem chainAfter_sound (step : tier.tighter? = some inner)
    (sound : Sound inner operand) (more : Nat) {left e : Expr} {depth : Nat}
    {tokens : List Token} {cursor after : Cursor} (phrase : Derives tier depth tokens left)
    (accepts : accepted (chainAfter limits tier.operator? operand more left) cursor =
      some (e, after)) :
    ∃ depth' tokens', cursor.rest = tokens' ++ after.rest ∧
      Derives tier depth' (tokens ++ tokens') e := by
  induction more generalizing left depth tokens cursor with
  | zero =>
      cases accepts
      exact ⟨depth, [], rfl, by simpa using phrase⟩
  | succ more ih =>
      simp only [chainAfter, accepted_bind, accepted_peek, Option.bind_some] at accepts
      cases head : cursor.rest.head?.bind tier.operator? with
      | none =>
          rw [head] at accepts
          cases accepts
          exact ⟨depth, [], rfl, by simpa using phrase⟩
      | some op =>
          obtain ⟨token, first, operates⟩ := Option.bind_eq_some_iff.1 head
          obtain ⟨mark, rfl, joins⟩ := Tier.operator?_eq_some_iff.mp operates
          simp only [head, accepted_bind, Option.bind_eq_some_iff] at accepts
          obtain ⟨⟨_, start⟩, counts, ⟨right, stop⟩, reads, continues⟩ := accepts
          have behind := accepted_operator_eq_some counts
          obtain ⟨rightDepth, rightTokens, rest, rightPhrase⟩ := sound reads
          obtain ⟨depth', tokens', rest', phrase'⟩ :=
            ih (.join joins step phrase rightPhrase) continues
          refine ⟨depth', .mark mark :: rightTokens ++ tokens', ?_, ?_⟩
          · rw [eq_cons_of_head? first, ← behind]
            simp only at rest rest'
            rw [rest, rest']
            simp
          · simpa using phrase'

theorem Sound.chain (step : tier.tighter? = some inner) (sound : Sound inner operand)
    (bound : Nat) : Sound tier (chain limits bound tier.operator? operand) := by
  intro cursor e after accepts
  simp only [Reader.chain, accepted_bind, Option.bind_eq_some_iff] at accepts
  obtain ⟨⟨first, stop⟩, reads, continues⟩ := accepts
  obtain ⟨depth, tokens, rest, phrase⟩ := sound reads
  obtain ⟨depth', tokens', rest', phrase'⟩ :=
    chainAfter_sound step sound bound (.tighter step phrase) continues
  simp only at rest rest'
  exact ⟨depth', tokens ++ tokens', by rw [rest, rest', List.append_assoc], phrase'⟩

theorem percentsAfter_sound (more : Nat) {operand e : Expr} {depth : Nat} {tokens : List Token}
    {cursor after : Cursor} (phrase : Derives .percent depth tokens operand)
    (accepts : accepted (percentsAfter limits more operand) cursor = some (e, after)) :
    ∃ tokens', cursor.rest = tokens' ++ after.rest ∧
      Derives .percent depth (tokens ++ tokens') e := by
  induction more generalizing operand tokens cursor with
  | zero =>
      cases accepts
      exact ⟨[], rfl, by simpa using phrase⟩
  | succ more ih =>
      simp only [percentsAfter, accepted_bind, accepted_peek, Option.bind_some] at accepts
      split at accepts
      next head =>
        simp only [accepted_bind, Option.bind_eq_some_iff] at accepts
        obtain ⟨⟨_, start⟩, counts, continues⟩ := accepts
        have behind := accepted_operator_eq_some counts
        obtain ⟨tokens', rest, phrase'⟩ := ih (.percent phrase) continues
        refine ⟨.mark .percent :: tokens', ?_, by simpa using phrase'⟩
        simp only at rest
        rw [eq_cons_of_head? head, ← behind, rest]
        rfl
      next =>
        cases accepts
        exact ⟨[], rfl, by simpa using phrase⟩

end Chains

section Phrases

variable {limits : Limits} {bound : Nat} {phrase : Phrase → Reader Expr}

theorem readCell_sound {spelling : String} {cursor after : Cursor} {e : Expr}
    (accepts : accepted (readCell spelling) cursor = some (e, after)) :
    after = cursor ∧ Derives .primary 0 [.reference spelling] e := by
  unfold readCell at accepts
  split at accepts
  next address names => cases accepts; exact ⟨rfl, .cell names⟩
  next => cases accepts

theorem readArguments_sound (sound : ∀ inner : Phrase, Sound inner.tier (phrase inner))
    (more : Nat) {cursor after : Cursor} {found : List Expr}
    (accepts : accepted (readArguments phrase more) cursor = some (found, after)) :
    ∃ readings : List Reading,
      cursor.rest =
        (readings.flatMap fun reading => .mark .comma :: reading.tokens) ++ after.rest ∧
      found = readings.map Reading.tree ∧
      ∀ reading ∈ readings,
        Derives .comparison reading.depth reading.tokens reading.tree := by
  induction more generalizing cursor found with
  | zero =>
      cases accepts
      exact ⟨[], rfl, rfl, by simp⟩
  | succ more ih =>
      simp only [readArguments, accepted_bind, accepted_peek, Option.bind_some] at accepts
      split at accepts
      next head =>
        simp only [accepted_bind, accepted_advance, Option.bind_some,
          Option.bind_eq_some_iff] at accepts
        obtain ⟨⟨first, stop⟩, reads, ⟨others, last⟩, continues, same⟩ := accepts
        cases same
        obtain ⟨depth, tokens, rest, derives⟩ := sound .expression reads
        obtain ⟨readings, rest', rfl, phrases⟩ := ih continues
        refine ⟨⟨depth, tokens, first⟩ :: readings, ?_, rfl, ?_⟩
        · simp only at rest rest'
          rw [eq_cons_of_head? head, rest, rest']
          simp
        · intro reading member
          rcases List.mem_cons.1 member with rfl | member
          · exact derives
          · exact phrases reading member
      next =>
        cases accepts
        exact ⟨[], rfl, rfl, by simp⟩

theorem readCall_sound (sound : ∀ inner : Phrase, Sound inner.tier (phrase inner))
    {function : String} {cursor after : Cursor} {e : Expr}
    (accepts : accepted (readCall bound phrase function) cursor = some (e, after)) :
    ∃ depth tokens, cursor.rest = tokens ++ after.rest ∧
      Derives .primary depth (.name function :: tokens) e := by
  simp only [readCall, accepted_bind, Option.bind_eq_some_iff] at accepts
  obtain ⟨⟨_, start⟩, opens, ⟨head, _⟩, peeks, continues⟩ := accepts
  cases peeks
  have opening := accepted_expect_eq_some opens
  split at continues
  next closes =>
    cases continues
    refine ⟨_, [.mark .leftParen, .mark .rightParen], ?_, .call function [] (by simp)⟩
    rw [opening, eq_cons_of_head? closes]
    rfl
  next =>
    simp only [accepted_bind, Option.bind_eq_some_iff] at continues
    obtain ⟨⟨first, stop⟩, reads, ⟨others, last⟩, readsOthers, ⟨_, close⟩, closes, same⟩ :=
      continues
    cases same
    obtain ⟨depth, tokens, rest, derives⟩ := sound .expression reads
    obtain ⟨readings, rest', rfl, phrases⟩ := readArguments_sound sound bound readsOthers
    have closing := accepted_expect_eq_some closes
    refine ⟨_, .mark .leftParen :: Reading.separated (⟨depth, tokens, first⟩ :: readings) ++
      [.mark .rightParen], ?_, .call function (⟨depth, tokens, first⟩ :: readings) ?_⟩
    · simp only at rest rest' closing
      rw [opening, rest, rest', closing, Reading.separated_cons]
      simp
    · intro reading member
      rcases List.mem_cons.1 member with rfl | member
      · exact derives
      · exact phrases reading member

theorem Sound.primary (sound : ∀ inner : Phrase, Sound inner.tier (phrase inner)) :
    Sound .primary (readPrimary limits bound phrase) := by
  intro cursor e after accepts
  simp only [readPrimary, accepted_bind, accepted_next, Option.bind_some] at accepts
  split at accepts
  next n head => cases accepts; exact ⟨0, [.number n], eq_cons_of_head? head, .number n⟩
  next s head => cases accepts; exact ⟨0, [.text s], eq_cons_of_head? head, .text s⟩
  next b head => cases accepts; exact ⟨0, [.boolean b], eq_cons_of_head? head, .boolean b⟩
  next spelling head =>
    obtain ⟨rfl, derives⟩ := readCell_sound accepts
    exact ⟨0, [.reference spelling], eq_cons_of_head? head, derives⟩
  next spelling head =>
    simp only [accepted_bind, accepted_peek, Option.bind_some] at accepts
    split at accepts
    · rw [accepted_nested] at accepts
      split at accepts
      · obtain ⟨⟨found, stop⟩, inside, same⟩ := Option.map_eq_some_iff.1 accepts
        cases same
        obtain ⟨depth, tokens, rest, derives⟩ := readCall_sound sound inside
        refine ⟨depth, .name spelling :: tokens, ?_, derives⟩
        simp only at rest
        rw [eq_cons_of_head? head, rest]
        rfl
      · cases accepts
    · cases accepts
      exact ⟨0, [.name spelling], eq_cons_of_head? head, .name spelling⟩
  next head =>
    simp only [accepted_bind, Option.bind_eq_some_iff] at accepts
    obtain ⟨⟨inside, stop⟩, reads, ⟨_, close⟩, closes, same⟩ := accepts
    cases same
    obtain ⟨depth, tokens, rest, derives⟩ := sound .expression reads
    have closing := accepted_expect_eq_some closes
    refine ⟨depth + 1, .mark .leftParen :: tokens ++ [.mark .rightParen], ?_,
      .parentheses derives⟩
    simp only at rest closing
    rw [eq_cons_of_head? head, rest, closing]
    simp
  next => cases accepts
  next => cases accepts

theorem Sound.range (sound : ∀ inner : Phrase, Sound inner.tier (phrase inner)) :
    Sound .range (readRange limits bound phrase) := by
  intro cursor e after accepts
  simp only [readRange, accepted_bind, accepted_peek, Option.bind_some,
    Option.bind_eq_some_iff] at accepts
  obtain ⟨⟨first, stop⟩, reads, continues⟩ := accepts
  obtain ⟨depth, tokens, rest, derives⟩ := Sound.primary sound reads
  split at continues
  next head =>
    simp only [accepted_bind, accepted_advance, Option.bind_some,
      Option.bind_eq_some_iff] at continues
    obtain ⟨⟨last, stop'⟩, readsLast, continues⟩ := continues
    obtain ⟨depth', tokens', rest', derives'⟩ := Sound.primary sound readsLast
    split at continues
    next isCell =>
      cases continues
      simp only at isCell
      subst isCell
      refine ⟨_, tokens ++ .mark .colon :: tokens', ?_, .range derives derives'⟩
      simp only at rest rest' head
      rw [rest, eq_cons_of_head? head, rest']
      simp
    next => cases continues
  next =>
    cases continues
    exact ⟨depth, tokens, rest, .tighter rfl derives⟩

theorem Sound.operand (sound : ∀ inner : Phrase, Sound inner.tier (phrase inner)) :
    Sound .sign (readOperand limits bound phrase) := by
  intro cursor e after accepts
  simp only [readOperand, accepted_bind, accepted_peek, Option.bind_some] at accepts
  split at accepts
  next head =>
    simp only [accepted_bind, accepted_advance, Option.bind_some,
      Option.bind_eq_some_iff] at accepts
    obtain ⟨⟨operand, stop⟩, reads, same⟩ := accepts
    cases same
    obtain ⟨depth, tokens, rest, derives⟩ := (sound .operand).nested reads
    refine ⟨depth + 1, .mark .minus :: tokens, ?_, .minus derives⟩
    simp only at rest
    rw [eq_cons_of_head? head, rest]
    rfl
  next head =>
    simp only [accepted_bind, accepted_advance, Option.bind_some] at accepts
    obtain ⟨depth, tokens, rest, derives⟩ := (sound .operand).nested accepts
    refine ⟨depth + 1, .mark .plus :: tokens, ?_, .plus derives⟩
    simp only at rest
    rw [eq_cons_of_head? head, rest]
    rfl
  next =>
    simp only [accepted_bind, Option.bind_eq_some_iff] at accepts
    obtain ⟨⟨operand, stop⟩, reads, continues⟩ := accepts
    obtain ⟨depth, tokens, rest, derives⟩ := Sound.range sound reads
    obtain ⟨tokens', rest', derives'⟩ :=
      percentsAfter_sound bound (.tighter rfl derives) continues
    simp only at rest rest'
    exact ⟨depth, tokens ++ tokens', by rw [rest, rest', List.append_assoc],
      .tighter rfl derives'⟩

theorem Sound.power (sound : ∀ inner : Phrase, Sound inner.tier (phrase inner)) :
    Sound .power (readPower limits bound phrase) := by
  intro cursor e after accepts
  simp only [readPower, accepted_bind, accepted_peek, Option.bind_some,
    Option.bind_eq_some_iff] at accepts
  obtain ⟨⟨base, stop⟩, reads, continues⟩ := accepts
  obtain ⟨depth, tokens, rest, derives⟩ := Sound.operand sound reads
  split at continues
  next head =>
    simp only [accepted_bind, Option.bind_eq_some_iff] at continues
    obtain ⟨⟨_, start⟩, counts, ⟨right, stop'⟩, readsRight, same⟩ := continues
    cases same
    have behind := accepted_operator_eq_some counts
    obtain ⟨depth', tokens', rest', derives'⟩ := (sound .power).nested readsRight
    refine ⟨_, tokens ++ .mark .caret :: tokens', ?_, .power derives derives'⟩
    simp only at rest rest' head behind
    rw [rest, eq_cons_of_head? head, ← behind, rest']
    simp
  next =>
    cases continues
    exact ⟨depth, tokens, rest, .tighter rfl derives⟩

theorem Sound.expression (sound : ∀ inner : Phrase, Sound inner.tier (phrase inner)) :
    Sound .comparison (readExpression limits bound phrase) := by
  apply Sound.nested
  apply @Sound.chain _ .comparison _ _ rfl
  apply @Sound.chain _ .concatenation _ _ rfl
  apply @Sound.chain _ .addition _ _ rfl
  apply @Sound.chain _ .multiplication _ _ rfl
  exact Sound.power sound

end Phrases

theorem readPhrase_sound (limits : Limits) (bound : Nat) (inner : Phrase) :
    Sound inner.tier (readPhrase limits bound inner) := by
  induction bound generalizing inner with
  | zero =>
      intro cursor e after accepts
      cases inner <;> cases accepts
  | succ bound ih =>
      cases inner with
      | expression => exact Sound.expression ih
      | power => exact Sound.power ih
      | operand => exact Sound.operand ih

end Spreadsheet.Formula
