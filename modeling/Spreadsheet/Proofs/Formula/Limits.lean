import Spreadsheet.Proofs.Formula.Parse

/-! What the limits do: they only reject, and exactly from the levels and operators of a text. -/

namespace Spreadsheet.Formula

section Unique

variable {depth depth' : Nat} {tokens : List Token} {e e' : Expr}

theorem Derives.tree_unique (phrase : Derives .comparison depth tokens e)
    (phrase' : Derives .comparison depth' tokens e') : e' = e := by
  have parses : parseTokens ⟨max depth depth' + 1, max e.operatorCount e'.operatorCount⟩ tokens =
      .ok e :=
    parseTokens_eq_ok_iff.mpr
      ⟨depth, phrase, Nat.succ_le_succ (Nat.le_max_left _ _), Nat.le_max_left _ _⟩
  have parses' : parseTokens ⟨max depth depth' + 1, max e.operatorCount e'.operatorCount⟩ tokens =
      .ok e' :=
    parseTokens_eq_ok_iff.mpr
      ⟨depth', phrase', Nat.succ_le_succ (Nat.le_max_right _ _), Nat.le_max_right _ _⟩
  exact Except.ok.inj (parses'.symm.trans parses)

/-- The reader succeeds under limits that just allow one derivation, so they allow any other. -/
theorem Derives.depth_le (phrase : Derives .comparison depth tokens e)
    (phrase' : Derives .comparison depth' tokens e) : depth' ≤ depth := by
  have reads := @Derives.accepted_readPhrase ⟨depth + 1, e.operatorCount⟩ _ _ _ phrase
  rw [if_pos ⟨Nat.le_refl _, Nat.le_refl _⟩, phrase'.accepted_readPhrase] at reads
  split at reads
  next allowed => exact Nat.le_of_succ_le_succ allowed.1
  next => cases reads

/-- Tokens mean one tree, and reach to one depth. -/
theorem Derives.unique (phrase : Derives .comparison depth tokens e)
    (phrase' : Derives .comparison depth' tokens e') : depth' = depth ∧ e' = e := by
  obtain rfl := phrase.tree_unique phrase'
  exact ⟨Nat.le_antisymm (phrase.depth_le phrase') (phrase'.depth_le phrase), rfl⟩

end Unique

variable {formula : String} {e : Expr}

theorem length_tokens_body (formula : String) :
    (tokens (body formula.toList)).length ≤ formula.length :=
  calc
    (tokens (body formula.toList)).length ≤ (body formula.toList).length := tokens_length _
    _ ≤ formula.toList.length := body_length _
    _ = formula.length := String.length_toList

/-- Whatever keeps a text from being read is an error of its syntax. -/
theorem eq_parse_of_parse_error {options : Options} {error : FormulaError}
    (fails : options.parse formula = .error error) : ∃ cause, error = .parse cause := by
  unfold Options.parse at fails
  cases read : parse options.limits formula.toList with
  | error cause =>
      rw [read] at fails
      cases fails
      exact ⟨cause, rfl⟩
  | ok found =>
      rw [read] at fails
      cases fails

theorem parse_fails_iff {options : Options} :
    (∃ cause, options.parse formula = .error (.parse cause)) ↔
      ∀ e, options.parse formula ≠ .ok e := by
  cases read : options.parse formula with
  | error error =>
      obtain ⟨cause, rfl⟩ := eq_parse_of_parse_error read
      exact iff_of_true ⟨cause, rfl⟩ nofun
  | ok found => exact iff_of_false nofun fun fails => fails found rfl

/-- A text that is rejected under limits it cannot reach is rejected under all limits. One that is
read under any limits has a depth, and is read as the same tree exactly under the limits that allow
all levels it reaches, counted from one, and all operators of its tree. -/
theorem limits_exact (formula : String) :
    (∀ limits : Limits, formula.length ≤ limits.depth → formula.length ≤ limits.operators →
      (∀ e, parse limits formula.toList ≠ .ok e) →
      ∀ options : Options, ∃ cause, options.parse formula = .error (.parse cause)) ∧
    ∀ (limits : Limits) (e : Expr), parse limits formula.toList = .ok e →
      ∃ depth,
        (∀ other, Derives .comparison other (tokens (body formula.toList)) e ↔ other = depth) ∧
        ∀ options : Options,
          if depth + 1 ≤ options.maxDepth.toNat ∧ e.operatorCount ≤ options.maxOperators.toNat then
            options.parse formula = .ok e
          else ∃ cause, options.parse formula = .error (.parse cause) := by
  constructor
  · intro limits deep long fails options
    rw [parse_fails_iff]
    intro e parses
    obtain ⟨depth, phrase, -⟩ := parse_eq_ok_iff.mp parses
    obtain ⟨levels, operators⟩ := phrase.lt_length
    have bounded := length_tokens_body formula
    exact fails e (parseTokens_eq_ok_iff.mpr ⟨depth, phrase, by omega, by omega⟩)
  · intro limits e parses
    obtain ⟨depth, phrase, -⟩ := parseTokens_eq_ok_iff.mp parses
    refine ⟨depth, fun other => ⟨fun phrase' => (phrase.unique phrase').1, ?_⟩, fun options => ?_⟩
    · rintro rfl
      exact phrase
    · split
      next allowed => exact parse_eq_ok_iff.mpr ⟨depth, phrase, allowed⟩
      next outside =>
        rw [parse_fails_iff]
        intro e' parses'
        obtain ⟨depth', phrase', allowed⟩ := parse_eq_ok_iff.mp parses'
        obtain ⟨rfl, rfl⟩ := phrase.unique phrase'
        exact outside allowed

end Spreadsheet.Formula
