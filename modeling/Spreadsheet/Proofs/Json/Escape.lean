import Mathlib.Tactic
import Spreadsheet.Json.Read

/-! Texts between quotes. What is escaped is read back, and ends where its closing quote stands. -/

namespace Spreadsheet.Json

open Spreadsheet.Text

theorem hexValue?_digitChar : ∀ n < 16, hexValue? (Nat.digitChar n) = some n := by decide

theorem codeUnit?_digitChar {high low : Nat} (first : high < 16) (second : low < 16) :
    codeUnit? '0' '0' (Nat.digitChar high) (Nat.digitChar low) = some (16 * high + low) := by
  have zero : hexValue? '0' = some 0 := rfl
  simp [codeUnit?, zero, hexValue?_digitChar, first, second]

theorem hexDigits_control {n : Nat} (control : n < 0x20) :
    (if n < 0x10 then ['\\', 'u', '0', '0', '0'] ++ hexDigits n
      else ['\\', 'u', '0', '0'] ++ hexDigits n) =
        ['\\', 'u', '0', '0', Nat.digitChar (n / 16), Nat.digitChar (n % 16)] := by
  unfold hexDigits
  rw [Nat.toDigits_eq_if (by decide)]
  by_cases short : n < 0x10
  · rw [if_pos short, if_pos short, Nat.div_eq_of_lt short, Nat.mod_eq_of_lt short]
    rfl
  · have leading : n / 16 = 1 := by omega
    rw [if_neg short, if_neg short, leading]
    rfl

/-- A character is escaped by its name or by its number, or stands for itself. -/
theorem escapeChar_cases (c : Char) :
    (∃ name, escapeChar c = ['\\', name] ∧ name ≠ 'u' ∧ namedEscape? name = some c) ∨
      (∃ a b, escapeChar c = ['\\', 'u', '0', '0', a, b] ∧ codeUnit? '0' '0' a b = some c.toNat ∧
        c.toNat < 0x20) ∨
      escapeChar c = [c] ∧ c ≠ '"' ∧ c ≠ '\\' ∧ ¬c.toNat < 0x20 := by
  unfold escapeChar
  split
  case h_1 | h_2 | h_3 | h_4 | h_5 | h_6 | h_7 => exact .inl ⟨_, rfl, by decide, rfl⟩
  next noQuote noBackslash _ _ _ _ _ =>
    by_cases control : c.toNat < 0x20
    · refine .inr (.inl ⟨Nat.digitChar (c.toNat / 16), Nat.digitChar (c.toNat % 16), ?_, ?_,
        control⟩)
      · rw [if_pos control]
        exact hexDigits_control control
      · rw [codeUnit?_digitChar (by omega) (Nat.mod_lt _ (by decide)), Nat.div_add_mod]
    · refine .inr (.inr ⟨?_, noQuote, noBackslash, control⟩)
      rw [if_neg control, if_neg (by omega)]

theorem unescape_escapeChar (c : Char) (rest : List Char) :
    unescape (escapeChar c ++ rest) = (unescape rest).map (c :: ·) := by
  obtain ⟨name, same, plain, named⟩ | ⟨a, b, same, code, control⟩ | ⟨same, -, plain, -⟩ :=
    escapeChar_cases c
  · rw [same, List.cons_append, List.cons_append, List.nil_append, unescape]
    · rw [named]
      cases unescape rest <;> rfl
    · exact fun _ _ _ _ _ byNumber => absurd byNumber plain
  · have high : isHighSurrogate c.toNat = false := by
      simp only [isHighSurrogate, Bool.and_eq_false_iff, decide_eq_false_iff_not]
      omega
    have low : isLowSurrogate c.toNat = false := by
      simp only [isLowSurrogate, Bool.and_eq_false_iff, decide_eq_false_iff_not]
      omega
    simp only [same, List.cons_append, List.nil_append, unescape, code, Option.bind_eq_bind,
      Option.bind_some, high, low, Bool.false_eq_true, if_false, Char.ofNat_toNat]
    cases unescape rest <;> rfl
  · rw [same, List.singleton_append, unescape]
    · cases unescape rest <;> rfl
    · exact fun _ _ _ _ _ escaped => absurd escaped plain
    · exact fun _ _ escaped => absurd escaped plain

theorem scanString_escapeChar (c : Char) (rest : List Char) :
    scanString (escapeChar c ++ rest) =
      (scanString rest).map fun scanned => (escapeChar c ++ scanned.1, scanned.2) := by
  obtain ⟨name, same, plain, named⟩ | ⟨a, b, same, code, control⟩ |
      ⟨same, noQuote, plain, visible⟩ :=
    escapeChar_cases c
  · simp only [same, List.cons_append, List.nil_append]
    rw [scanString]
    · rw [named]
      cases scanString rest <;> rfl
    · exact fun _ _ _ _ _ byNumber => absurd byNumber plain
  · simp only [same, List.cons_append, List.nil_append, scanString, code]
    cases scanString rest <;> rfl
  · simp only [same, List.cons_append, List.nil_append]
    rw [scanString, if_neg visible]
    · cases scanString rest <;> rfl
    · exact fun quote => absurd quote noQuote
    · exact fun _ _ _ _ _ escaped => absurd escaped plain
    · exact fun _ _ escaped => absurd escaped plain

theorem unescape_escape (s : List Char) : unescape (escape s) = some s := by
  induction s with
  | nil => rfl
  | cons c s ih =>
      change unescape (escapeChar c ++ escape s) = _
      rw [unescape_escapeChar, ih]
      rfl

/-- A spelling that goes on to the next quote and no further. -/
def Closed (spelling : List Char) : Prop :=
  ∀ rest, scanString (spelling ++ '"' :: rest) = some (spelling, rest)

theorem closed_escape (s : List Char) : Closed (escape s) := by
  intro rest
  induction s with
  | nil => rfl
  | cons c s ih =>
      change scanString (escapeChar c ++ escape s ++ '"' :: rest) =
        some (escapeChar c ++ escape s, _)
      rw [List.append_assoc, scanString_escapeChar, ih]
      rfl

theorem text?_ofText (s : String) : (ofText s).text? = some s := by
  change (unescape (escape s.toList)).map String.ofList = some s
  rw [unescape_escape, Option.map_some, String.ofList_toList]

end Spreadsheet.Json
