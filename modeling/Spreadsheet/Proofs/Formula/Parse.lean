import Spreadsheet.Outcome
import Spreadsheet.Proofs.Formula.Completeness
import Spreadsheet.Proofs.Formula.Soundness
import Spreadsheet.Proofs.Text.Blank

namespace Spreadsheet.Formula

open Spreadsheet.Text

theorem tokens_length (s : List Char) : (tokens s).length ≤ s.length := by
  fun_induction tokens s with
  | case1 => exact Nat.zero_le _
  | case2 s token rest found ih =>
      have := scan?_length found
      rw [List.length_cons]
      omega

theorem body_length (s : List Char) : (body s).length ≤ s.length := by
  have := trim_length s
  unfold body
  split
  next rest cut =>
    rw [cut, List.length_cons] at this
    omega
  next => exact this

theorem Derives.valid {tier : Tier} {depth : Nat} {tokens : List Token} {e : Expr}
    (phrase : Derives tier depth tokens e) (fault : LexicalFault) : .invalid fault ∉ tokens := by
  induction phrase with
  | tighter _ _ ih => exact ih
  | join _ _ _ _ ihLeft ihRight => simp [ihLeft, ihRight]
  | power _ _ ihBase ih => simp [ihBase, ih]
  | minus _ ih | plus _ ih | percent _ ih | parentheses _ ih => simp [ih]
  | range _ _ ihFirst ihLast => simp [ihFirst, ihLast]
  | number | text | boolean | name | cell => simp
  | call function arguments _ ih =>
      have inside : .invalid fault ∉ Reading.separated arguments := by
        cases arguments with
        | nil => simp
        | cons first others =>
            have outside := ih first (by simp)
            have others : ∀ other ∈ others, .invalid fault ∉ other.tokens :=
              fun other member => ih other (by simp [member])
            simp only [Reading.separated_cons, List.mem_append, List.mem_flatMap, List.mem_cons]
            rintro (member | ⟨other, member, same | member'⟩)
            · exact outside member
            · cases same
            · exact others other member member'
      simp [inside]

theorem accepted_eq_some_iff {reader : Reader α} {cursor : Cursor} {found : α × Cursor} :
    accepted reader cursor = some found ↔ reader.run cursor = .ok found := by
  unfold accepted
  cases reader.run cursor with
  | error cause => exact ⟨nofun, nofun⟩
  | ok result => exact ⟨fun same => congrArg Except.ok (Option.some.inj same),
      fun same => congrArg some (Except.ok.inj same)⟩

/-- Tokens are read as a tree exactly if they mean it and the limits allow its phrase. -/
theorem parseTokens_eq_ok_iff {limits : Limits} {tokens : List Token} {e : Expr} :
    parseTokens limits tokens = .ok e ↔
      ∃ depth, Derives .comparison depth tokens e ∧
        depth + 1 ≤ limits.depth ∧ e.operatorCount ≤ limits.operators := by
  unfold parseTokens
  constructor
  · intro parses
    split at parses
    next => cases parses
    next =>
      cases run : (readPhrase limits (tokens.length + 1) .expression).run ⟨tokens, 0, 0⟩ with
      | error cause =>
          rw [run] at parses
          cases parses
      | ok found =>
          obtain ⟨expr, cursor⟩ := found
          rw [run] at parses
          simp only [bind, Except.bind] at parses
          split at parses <;> cases parses
          next finished =>
            have reads := accepted_eq_some_iff.2 run
            obtain ⟨depth, tokens', rest, phrase⟩ := readPhrase_sound limits _ .expression reads
            simp only [finished, List.append_nil] at rest
            subst rest
            rw [Derives.accepted_readPhrase phrase] at reads
            split at reads
            next allowed => exact ⟨depth, phrase, allowed⟩
            next => cases reads
  · rintro ⟨depth, phrase, allowed⟩
    have reads : accepted (readPhrase limits (tokens.length + 1) .expression) ⟨tokens, 0, 0⟩ =
        some (e, ⟨[], 0, e.operatorCount⟩) := by
      rw [phrase.accepted_readPhrase, if_pos allowed]
    have nonempty : ¬tokens.isEmpty = true := by
      rw [List.isEmpty_iff_length_eq_zero]
      have := phrase.lt_length
      omega
    rw [if_neg nonempty, accepted_eq_some_iff.1 reads]
    rfl

theorem parse_eq_ok_iff {options : Options} {formula : String} {e : Expr} :
    options.parse formula = .ok e ↔
      ∃ depth, Derives .comparison depth (tokens (body formula.toList)) e ∧
        depth + 1 ≤ options.maxDepth.toNat ∧ e.operatorCount ≤ options.maxOperators.toNat := by
  refine Iff.trans ?_ (@parseTokens_eq_ok_iff options.limits _ _)
  unfold Options.parse parse
  cases parseTokens options.limits (tokens (body formula.toList)) with
  | error cause => exact ⟨nofun, nofun⟩
  | ok found => exact ⟨fun same => by cases same; rfl, fun same => by cases same; rfl⟩

/-- With limits that no text of its length can break, a formula is read exactly as the tree that
its tokens mean, and they mean only one. -/
theorem parse_iff_means {options : Options} {formula : String}
    (deep : formula.length ≤ options.maxDepth.toNat)
    (long : formula.length ≤ options.maxOperators.toNat) :
    (∀ e, options.parse formula = .ok e ↔
      (∀ fault, .invalid fault ∉ tokens (body formula.toList)) ∧
        Means (tokens (body formula.toList)) e) ∧
    ∀ e e', Means (tokens (body formula.toList)) e →
      Means (tokens (body formula.toList)) e' → e = e' := by
  have bounded : (tokens (body formula.toList)).length ≤ formula.length := by
    have := tokens_length (body formula.toList)
    have := body_length formula.toList
    rw [String.length_toList] at this
    omega
  have reads (e : Expr) :
      options.parse formula = .ok e ↔ Means (tokens (body formula.toList)) e := by
    rw [parse_eq_ok_iff]
    constructor
    · rintro ⟨depth, phrase, -⟩
      exact ⟨depth, phrase⟩
    · rintro ⟨depth, phrase⟩
      obtain ⟨levels, operators⟩ := phrase.lt_length
      exact ⟨depth, phrase, by omega, by omega⟩
  refine ⟨fun e => ⟨fun parses => ?_, fun ⟨_, means⟩ => (reads e).2 means⟩, ?_⟩
  · have means := (reads e).1 parses
    obtain ⟨depth, phrase⟩ := means
    exact ⟨phrase.valid, depth, phrase⟩
  · intro e e' means means'
    exact Except.ok.inj (((reads e).2 means).symm.trans ((reads e').2 means'))

theorem parse_sign_before_power :
    "=-a^b".length ≤ Options.standard.maxDepth.toNat ∧
    "=-a^b".length ≤ Options.standard.maxOperators.toNat ∧
    Means (tokens (body "=-a^b".toList))
      (.binary .power (.unary .negate (.name "a")) (.name "b")) := by
  have parses : Options.standard.parse "=-a^b" =
      .ok (.binary .power (.unary .negate (.name "a")) (.name "b")) := by cbv
  have deep : "=-a^b".length ≤ Options.standard.maxDepth.toNat := by decide
  have long : "=-a^b".length ≤ Options.standard.maxOperators.toNat := by decide
  exact ⟨deep, long, (((parse_iff_means deep long).1 _).1 parses).2⟩

end Spreadsheet.Formula
