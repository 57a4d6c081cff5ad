import Spreadsheet.Decimal.Spelling
import Spreadsheet.Proofs.Binary.Arithmetic
import Spreadsheet.Proofs.Decimal.Print
import Spreadsheet.Proofs.Decimal.Shortest

/-! Numbers on display. What a finite number shows is read back as that number. -/

namespace Spreadsheet.Decimal

open Spreadsheet.Binary
open Spreadsheet.Text

/-- The text is the print of a plain numeral with that value. -/
def Denotes (s : List Char) (y : ℚ) : Prop :=
  ∃ numeral : Numeral, numeral.Valid ∧ numeral.Plain ∧ numeral.print = s ∧ numeral.value = y

theorem isDigit_of_mem_zeros {n : Nat} {c : Char} (member : c ∈ zeros n) : c.isDigit = true := by
  rw [List.eq_of_mem_replicate member]
  rfl

theorem decimalValue_zeros (n : Nat) : decimalValue (zeros n) = 0 := by
  induction n with
  | zero => rfl
  | succ n ih => exact ih

/-- A power of ten as it is shown, always with a sign. -/
def signedPower (n : Int) : PowerOfTen := ⟨decide (n < 0), decimalDigits n.natAbs⟩

theorem value_signedPower (n : Int) : (signedPower n).value = n := by
  unfold signedPower PowerOfTen.value
  simp only [decimalValue_decimalDigits, decide_eq_true_eq]
  omega

theorem print_signedPower {style : Style} (signs : style.plusSign = true) (n : Int) :
    (signedPower n).print =
      'e' :: (if style.plusSign && decide (0 ≤ n) then ['+'] else []) ++ spellInt n := by
  unfold spellInt
  by_cases negative : n < 0
  · simp [signedPower, PowerOfTen.print, negative, Int.not_le.mpr negative]
  · simp [signedPower, PowerOfTen.print, negative, Int.not_lt.mp negative, signs]

theorem valid_signedPower {whole : List Char} {fraction : Option (List Char)}
    (filled : whole ≠ []) (isDigit : ∀ c ∈ whole, c.isDigit = true)
    (isDigitBehind : ∀ digits ∈ fraction, ∀ c ∈ digits, c.isDigit = true) (n : Int) :
    Numeral.Valid ⟨whole, fraction, some (signedPower n)⟩ where
  whole_ne_nil := filled
  isDigit_whole := isDigit
  isDigit_fraction := isDigitBehind
  power_ne_nil := by
    rintro _ ⟨⟩
    exact decimalDigits_ne_nil _
  isDigit_power := by
    rintro _ ⟨⟩ c
    exact isDigit_of_mem_decimalDigits

section Digits

variable {digits : List Char} (isDigit : ∀ c ∈ digits, c.isDigit = true) (filled : digits ≠ [])
  (significant : digits.head? ≠ some '0')

include isDigit filled significant

/-- Zeros stand for the places between the digits and the point, and perhaps one behind it. -/
theorem denotes_integer (places : Nat) (pointZero : Bool) :
    Denotes (digits ++ zeros places ++ if pointZero then ['.', '0'] else [])
      (decimalValue digits * 10 ^ places) := by
  have length : (zeros places).length = places := List.length_replicate
  refine ⟨⟨digits ++ zeros places, if pointZero then some ['0'] else none, none⟩,
    ⟨?_, ?_, ?_, nofun, nofun⟩, ⟨fun head => absurd head ?_, ?_⟩, ?_, ?_⟩
  · exact List.append_ne_nil_of_left_ne_nil filled _
  · exact List.forall_mem_append.mpr ⟨isDigit, fun c => isDigit_of_mem_zeros⟩
  · cases pointZero with
    | false => nofun
    | true =>
        rintro _ ⟨⟩
        exact List.forall_mem_singleton.mpr rfl
  · rwa [List.head?_append_of_ne_nil _ filled]
  · cases pointZero <;> simp
  · cases pointZero <;> simp [Numeral.print]
  · cases pointZero with
    | false =>
        simp [Numeral.value, Numeral.digits, Numeral.scale, decimalValue_append,
          decimalValue_zeros, length]
    | true =>
        have zero : decimalValue ['0'] = 0 := rfl
        simp [Numeral.value, Numeral.digits, Numeral.scale, decimalValue_append,
          decimalValue_zeros, length, zero]
        ring

omit filled in
theorem denotes_withPoint {places : Nat} (deep : 0 < places) :
    Denotes (withPoint digits places) (decimalValue digits * 10 ^ (-places : Int)) := by
  have padded : ∀ c ∈ zeros (places + 1 - digits.length) ++ digits, c.isDigit = true :=
    List.forall_mem_append.mpr ⟨fun c => isDigit_of_mem_zeros, isDigit⟩
  have wide : places < (zeros (places + 1 - digits.length) ++ digits).length := by
    rw [List.length_append, zeros, List.length_replicate]
    omega
  have value : decimalValue (zeros (places + 1 - digits.length) ++ digits) =
      decimalValue digits := by
    rw [decimalValue_append, decimalValue_zeros, Nat.zero_mul, Nat.zero_add]
  have head (more : places + 1 < (zeros (places + 1 - digits.length) ++ digits).length) :
      (zeros (places + 1 - digits.length) ++ digits).head? ≠ some '0' := by
    rw [List.length_append, zeros, List.length_replicate] at more
    have none : places + 1 - digits.length = 0 := by omega
    rw [none]
    exact significant
  unfold withPoint
  dsimp only
  rw [← value]
  generalize zeros (places + 1 - digits.length) ++ digits = all at padded wide head ⊢
  have length : all.length - (all.length - places) = places := by omega
  refine ⟨⟨all.take (all.length - places), some (all.drop (all.length - places)), none⟩,
    ⟨?_, ?_, ?_, nofun, nofun⟩, ⟨fun zero => ?_, ?_⟩, ?_, ?_⟩
  · refine List.ne_nil_of_length_pos ?_
    rw [List.length_take]
    omega
  · exact fun c member => padded c (List.mem_of_mem_take member)
  · rintro _ ⟨⟩ c member
    exact padded c (List.mem_of_mem_drop member)
  · dsimp only at zero ⊢
    rw [List.head?_take, if_neg (by omega)] at zero
    by_cases more : places + 1 < all.length
    · exact absurd zero (head more)
    · have one : all.length - places = 1 := by omega
      obtain ⟨others, rfl⟩ := List.head?_eq_some_iff.mp zero
      rw [one]
      rfl
  · intro empty
    have none := congrArg List.length (Option.some.inj empty)
    rw [List.length_drop, length] at none
    exact absurd none (Nat.ne_of_gt deep)
  · simp [Numeral.print]
  · simp [Numeral.value, Numeral.digits, Numeral.scale, length]

theorem denotes_spellPositional (style : Style) (exponent : Int) :
    Denotes (spellPositional style digits exponent) (decimalValue digits * 10 ^ exponent) := by
  unfold spellPositional
  split
  next nonneg =>
    obtain ⟨places, rfl⟩ := Int.eq_ofNat_of_zero_le nonneg
    exact denotes_integer isDigit filled significant places style.pointZero
  next negative =>
    obtain ⟨places, rfl⟩ := Int.exists_eq_neg_ofNat (Int.le_of_lt (Int.not_le.mp negative))
    rw [Int.neg_neg]
    exact denotes_withPoint isDigit significant (by omega)

theorem denotes_spellExponent {style : Style} (signs : style.plusSign = true) (leading : Int) :
    Denotes (spellExponent style digits leading)
      (decimalValue digits * 10 ^ (leading - (digits.length - 1))) := by
  have plain {c : Char} {others : List Char} {fraction : Option (List Char)}
      (first : digits = c :: others) (behind : fraction ≠ some []) :
      Numeral.Plain ⟨[c], fraction, some (signedPower leading)⟩ := by
    refine ⟨fun zero => absurd zero ?_, behind⟩
    rw [first] at significant
    exact significant
  unfold spellExponent
  rw [List.append_assoc, ← print_signedPower signs]
  split
  next first second rest =>
    obtain ⟨front, behind⟩ := List.forall_mem_cons.mp isDigit
    have inFront : ∀ c ∈ [first], c.isDigit = true := List.forall_mem_singleton.mpr front
    have behindPoint : ∀ fraction ∈ some (second :: rest), ∀ c ∈ fraction, c.isDigit = true := by
      rintro _ ⟨⟩
      exact behind
    refine ⟨⟨[first], some (second :: rest), some (signedPower leading)⟩,
      valid_signedPower (List.cons_ne_nil _ _) inFront behindPoint leading,
      plain rfl (by simp), ?_, ?_⟩
    · simp [Numeral.print]
    · simp [Numeral.value, Numeral.digits, Numeral.scale, value_signedPower]
  next single =>
    obtain ⟨c, rfl⟩ : ∃ c, digits = [c] := by
      obtain ⟨c, others, rfl⟩ := List.exists_cons_of_ne_nil filled
      cases others with
      | nil => exact ⟨c, rfl⟩
      | cons second rest => exact absurd rfl (single c second rest)
    have noPoint : ∀ fraction ∈ (none : Option (List Char)), ∀ c ∈ fraction, c.isDigit = true := by
      rintro _ ⟨⟩
    refine ⟨⟨[c], none, some (signedPower leading)⟩,
      valid_signedPower filled isDigit noPoint leading, plain rfl (by simp), ?_, ?_⟩
    · simp [Numeral.print]
    · simp [Numeral.value, Numeral.digits, Numeral.scale, value_signedPower]

end Digits

theorem denotes_spellScientific {style : Style} (signs : style.plusSign = true) {x : Scientific}
    (positive : 0 < x.coefficient) : Denotes (spellScientific style x) x.value := by
  have isDigit : ∀ c ∈ decimalDigits x.coefficient, c.isDigit = true :=
    fun c => isDigit_of_mem_decimalDigits
  have filled := decimalDigits_ne_nil x.coefficient
  have significant := head?_decimalDigits positive
  unfold spellScientific Scientific.value
  dsimp only
  split
  · have denotes := denotes_spellPositional isDigit filled significant style x.exponent
    rwa [decimalValue_decimalDigits] at denotes
  · have denotes := denotes_spellExponent isDigit filled significant signs
      (x.exponent + (decimalDigits x.coefficient).length - 1)
    have exponent : x.exponent + (decimalDigits x.coefficient).length - 1 -
        ((decimalDigits x.coefficient).length - 1) = x.exponent := by omega
    rwa [decimalValue_decimalDigits, exponent] at denotes

/-- A finite number is spelled as a plain numeral behind its sign. -/
theorem print_spellDatum {style : Style} (signs : style.plusSign = true) (format : Format)
    {mantissa : Nat} {exponent : Int} (negative : Bool) (fits : mantissa < twoTo 53)
    (least : -1074 ≤ exponent) (most : exponent ≤ 971) :
    ∃ numeral : Numeral, numeral.Valid ∧ numeral.Plain ∧
      spellDatum style format (.finite negative mantissa exponent) =
        (if negative then ['-'] else []) ++ numeral.print := by
  unfold spellDatum
  dsimp only
  obtain rfl | filled := Nat.eq_zero_or_pos mantissa
  · refine ⟨⟨['0'], if style.pointZero then some ['0'] else none, none⟩, ?_, ?_, ?_⟩
    · refine ⟨List.cons_ne_nil _ _, List.forall_mem_singleton.mpr rfl, ?_, nofun, nofun⟩
      cases style.pointZero with
      | false => nofun
      | true =>
          rintro _ ⟨⟩
          exact List.forall_mem_singleton.mpr rfl
    · exact ⟨fun _ => rfl, by cases style.pointZero <;> simp⟩
    · unfold spellPositional
      cases style.pointZero <;> rfl
  · have positive : 0 < (shortest format style.tie mantissa exponent).coefficient :=
      (shortest_nearest filled fits least most style.tie).2
    obtain ⟨numeral, valid, plain, print, -⟩ := denotes_spellScientific signs positive
    exact ⟨numeral, valid, plain, by rw [if_neg (Nat.ne_of_gt filled), print]⟩

/-- Zero loses its sign where it is shown. -/
def unsignedZero (x : Float) : Float := if x == 0 then 0 else x

theorem unsignedZero_unsignedZero (x : Float) : unsignedZero (unsignedZero x) = unsignedZero x := by
  unfold unsignedZero
  by_cases zero : (x == 0) = true
  · rw [if_pos zero]
    exact if_pos rfl
  · rw [if_neg zero, if_neg zero]

/-- Only zeros differ without a difference in value. -/
theorem unsignedZero_eq_of_value_eq {x z : Float} (finiteX : x.isFinite = true)
    (finiteZ : z.isFinite = true) (same : value x = value z) :
    unsignedZero x = unsignedZero z := by
  unfold unsignedZero
  by_cases zero : value x = 0
  · have zeros (n : Float) (finite : n.isFinite = true) (isZero : value n = 0) : (n == 0) = true :=
      (beq_iff finite value_zero.1).mpr (isZero.trans value_zero.2.symm)
    rw [if_pos (zeros x finiteX zero), if_pos (zeros z finiteZ (same ▸ zero))]
  · rw [eq_of_value_eq finiteX finiteZ same zero]

theorem readNumber?_zero : readNumber? ['0'] = some 0 := by decide

theorem readFloat?_spellDatum {x : Float} {negative : Bool} {mantissa : Nat} {exponent : Int}
    (same : datum x = .finite negative mantissa exponent) (filled : 0 < mantissa) :
    readFloat? (spellDatum .display double (datum x)) = some x ∧
      ∀ c ∈ spellDatum .display double (datum x), isBlank c = false := by
  obtain ⟨holds, -, -⟩ := holds_of_datum same
  obtain ⟨nearest, positive⟩ := shortest_nearest filled holds.fits holds.least_le
    (exponent_le same) Style.display.tie
  have signs : Style.display.plusSign = true := rfl
  obtain ⟨numeral, valid, -, print, value⟩ := denotes_spellScientific signs positive
  have spelled : spellDatum .display double (datum x) =
      (if negative then ['-'] else []) ++ numeral.print := by
    rw [same, spellDatum, if_neg (Nat.ne_of_gt filled), print]
  rw [← value] at nearest
  rw [spelled]
  refine ⟨?_, List.forall_mem_append.mpr ⟨?_, fun c => valid.visible_of_mem_print⟩⟩
  · rw [valid.readFloat?_print, Numeral.toFloat_of_nearest (fun _ => valid.isDigit_of_mem_digits)
      same filled nearest]
  · cases negative with
    | true => exact List.forall_mem_singleton.mpr (by decide)
    | false => exact List.forall_mem_nil _

/-- What a finite number shows is read as that number. -/
theorem readNumber?_display {x : Float} (finite : x.isFinite = true) :
    readNumber? (display x) = some (unsignedZero x) := by
  obtain ⟨negative, mantissa, exponent, same⟩ := isFinite_iff_datum.mp finite
  unfold unsignedZero
  simp only [beq_zero_iff same]
  obtain none | filled := Nat.eq_zero_or_pos mantissa
  · have zero : display x = ['0'] := by
      unfold display
      rw [same, none]
      rfl
    rw [zero, readNumber?_zero, if_pos none]
  · have nonzero : display x = spellDatum .display double (datum x) := by
      unfold display
      split
      next zero =>
        rw [same] at zero
        cases zero
        exact absurd filled (Nat.lt_irrefl 0)
      next => rfl
    obtain ⟨reads, visible⟩ := readFloat?_spellDatum same filled
    unfold readNumber?
    rw [nonzero, trim_of_visible visible, reads, if_neg (Nat.ne_of_gt filled)]
    exact Option.filter_eq_some_iff.mpr ⟨rfl, finite⟩

end Spreadsheet.Decimal
