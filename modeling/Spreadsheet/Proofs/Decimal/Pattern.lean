import Spreadsheet.Proofs.Decimal.Print

/-! The pattern of texts that spell decimal numbers, and the scanner that takes just those. -/

namespace Spreadsheet.Decimal

namespace Pattern

section Shape

variable (isDigit : Char → Bool)

/-- One digit or more. There may be more characters that count as digits than the ten. -/
def Digits (s : List Char) : Prop := s ≠ [] ∧ ∀ c ∈ s, isDigit c = true

/-- Digits, perhaps with a point behind them and perhaps with more digits behind that, or a point
with digits behind it. -/
inductive Mantissa : List Char → Prop
  | whole {s : List Char} (digits : Digits isDigit s) : Mantissa s
  | pointed {s t : List Char} (digits : Digits isDigit s) (more : ∀ c ∈ t, isDigit c = true) :
      Mantissa (s ++ '.' :: t)
  | fraction {t : List Char} (digits : Digits isDigit t) : Mantissa ('.' :: t)

def signs : List (List Char) := [[], ['+'], ['-']]

inductive Power : List Char → Prop
  | absent : Power []
  | marked {mark : Char} {sign s : List Char} (marks : isPowerMark mark = true)
      (signed : sign ∈ signs) (digits : Digits isDigit s) : Power (mark :: (sign ++ s))

def Unsigned (s : List Char) : Prop :=
  ∃ mantissa power, s = mantissa ++ power ∧ Mantissa isDigit mantissa ∧ Power isDigit power

/-- A numeral all through, with or without a sign in front of it. -/
def Matches (s : List Char) : Prop :=
  ∃ sign ∈ signs, ∃ spelling, s = sign ++ spelling ∧ Unsigned isDigit spelling

end Shape

section Mono

variable {isDigit more : Char → Bool} (wider : ∀ c, isDigit c = true → more c = true)
  {s : List Char}

include wider

theorem Digits.mono (digits : Digits isDigit s) : Digits more s :=
  ⟨digits.1, fun c member => wider c (digits.2 c member)⟩

theorem Mantissa.mono (mantissa : Mantissa isDigit s) : Mantissa more s := by
  cases mantissa with
  | whole digits => exact .whole (digits.mono wider)
  | pointed digits rest =>
      exact .pointed (digits.mono wider) fun c member => wider c (rest c member)
  | fraction digits => exact .fraction (digits.mono wider)

theorem Power.mono (power : Power isDigit s) : Power more s := by
  cases power with
  | absent => exact .absent
  | marked marks signed digits => exact .marked marks signed (digits.mono wider)

theorem Matches.mono (whole : Matches isDigit s) : Matches more s := by
  obtain ⟨sign, signed, spelling, parts, mantissa, power, split, ofMantissa, ofPower⟩ := whole
  exact ⟨sign, signed, spelling, parts, mantissa, power, split, ofMantissa.mono wider,
    ofPower.mono wider⟩

end Mono

theorem exists_sign (s : List Char) :
    ∃ sign ∈ signs, s = sign ++ (scanSign s).2 ∧ (scanSign s).1 = (sign == ['-']) := by
  unfold scanSign
  split
  next rest => exact ⟨['-'], by decide, rfl, rfl⟩
  next rest => exact ⟨['+'], by decide, rfl, rfl⟩
  next => exact ⟨[], by decide, rfl, rfl⟩

theorem scanSign_sign {sign s : List Char} (signed : sign ∈ signs)
    (plain : scanSign s = (false, s)) : scanSign (sign ++ s) = (sign == ['-'], s) := by
  simp only [signs, List.mem_cons, List.not_mem_nil, or_false] at signed
  rcases signed with rfl | rfl | rfl
  · exact plain
  · rfl
  · rfl

theorem scanSign_digits {s : List Char} (digits : Digits Char.isDigit s) :
    scanSign s = (false, s) := by
  obtain ⟨c, others, rfl⟩ := List.exists_cons_of_ne_nil digits.1
  exact scanSign_of_startsNumeral
    (startsNumeral_of_isDigit (digits.2 c List.mem_cons_self) others)

theorem Power.head? {s : List Char} {isDigit : Char → Bool} (power : Power isDigit s) {c : Char}
    (head : s.head? = some c) : isPowerMark c = true := by
  cases power with
  | absent => cases head
  | marked marks => exact Option.some.inj head ▸ marks

section Scan

variable {power : List Char} (ofPower : Power Char.isDigit power)

include ofPower

theorem scanPower_power : (scanPower power).2 = [] := by
  cases ofPower with
  | absent => rfl
  | marked marks signed digits =>
      unfold scanPower
      dsimp only
      rw [scanSign_sign signed (scanSign_digits digits), spanDigits_of_isDigit digits.2, if_pos]
      simp [marks, digits.1]

theorem spanDigits_power {s : List Char} (isDigit : ∀ c ∈ s, c.isDigit = true) :
    spanDigits (s ++ power) = (s, power) := by
  refine spanDigits_append_of_isDigit isDigit fun c head => ?_
  rcases isPowerMark_iff.mp (ofPower.head? head) with rfl | rfl <;> rfl

theorem scanFraction_power : scanFraction power = (none, power) := by
  refine scanFraction_of_head? fun head => ?_
  cases ofPower.head? head

theorem scan_eq {s rest whole : List Char} {fraction : Option (List Char)}
    (spans : spanDigits s = (whole, rest)) (points : scanFraction rest = (fraction, power)) :
    Numeral.scan s = (⟨whole, fraction, (scanPower power).1⟩, []) := by
  unfold Numeral.scan
  dsimp only
  rw [spans, points, scanPower_power ofPower]

/-- The scanner takes a mantissa with the power behind it, and finds a digit. -/
theorem exists_scan {mantissa : List Char} (ofMantissa : Mantissa Char.isDigit mantissa) :
    ∃ numeral, Numeral.scan (mantissa ++ power) = (numeral, []) ∧ numeral.digits ≠ [] := by
  have point {t : List Char} (digits : ∀ c ∈ t, c.isDigit = true) :
      scanFraction ('.' :: (t ++ power)) = (some t, power) :=
    congrArg (fun parts => (some parts.1, parts.2)) (spanDigits_power ofPower digits)
  cases ofMantissa with
  | whole digits =>
      exact ⟨_, scan_eq ofPower (spanDigits_power ofPower digits.2) (scanFraction_power ofPower),
        by simp [Numeral.digits, digits.1]⟩
  | @pointed s t digits more =>
      have spans : spanDigits ((s ++ '.' :: t) ++ power) = (s, '.' :: (t ++ power)) := by
        rw [List.append_assoc]
        exact spanDigits_append_of_isDigit digits.2 fun c head => by cases head; rfl
      exact ⟨_, scan_eq ofPower spans (point more), by simp [Numeral.digits, digits.1]⟩
  | @fraction t digits =>
      exact ⟨_, scan_eq ofPower rfl (point digits.2), by simp [Numeral.digits, digits.1]⟩

end Scan

theorem isDigit_spanDigits (s : List Char) : ∀ c ∈ (spanDigits s).1, c.isDigit = true :=
  fun _ => List.mem_takeWhile_imp

theorem power_of_scanPower {s : List Char} (taken : (scanPower s).2 = []) :
    Power Char.isDigit s := by
  unfold scanPower at taken
  split at taken
  next => exact .absent
  next mark rest =>
    dsimp only at taken
    split at taken
    next counted =>
      rw [Bool.and_eq_true, Bool.not_eq_true', List.isEmpty_eq_false_iff] at counted
      obtain ⟨sign, signed, parts, -⟩ := exists_sign rest
      have digits := spanDigits_append (scanSign rest).2
      dsimp only at taken
      rw [taken, List.append_nil] at digits
      rw [parts, ← digits]
      exact .marked counted.1 signed ⟨counted.2, isDigit_spanDigits _⟩
    next => cases taken

theorem scanFraction_cases (s : List Char) :
    scanFraction s = (none, s) ∨
      ∃ t, s = '.' :: t ∧ scanFraction s = (some (spanDigits t).1, (spanDigits t).2) := by
  unfold scanFraction
  split
  next rest => exact .inr ⟨rest, rfl, rfl⟩
  next => exact .inl rfl

theorem unsigned_of_scan {s : List Char} {numeral : Numeral}
    (taken : Numeral.scan s = (numeral, [])) (filled : numeral.digits ≠ []) :
    Unsigned Char.isDigit s := by
  have power := power_of_scanPower (congrArg Prod.snd taken)
  have digits := isDigit_spanDigits s
  have parts := spanDigits_append s
  obtain rfl : _ = numeral := congrArg Prod.fst taken
  change (spanDigits s).1 ++ (scanFraction (spanDigits s).2).1.getD [] ≠ [] at filled
  generalize (spanDigits s).1 = whole at *
  generalize (spanDigits s).2 = rest at *
  subst parts
  rcases scanFraction_cases rest with plain | ⟨t, rfl, pointed⟩
  · rw [plain] at power filled
    rw [Option.getD_none, List.append_nil] at filled
    exact ⟨whole, rest, rfl, .whole ⟨filled, digits⟩, power⟩
  · rw [pointed] at power filled
    rw [Option.getD_some] at filled
    have more := isDigit_spanDigits t
    rw [← spanDigits_append t]
    by_cases none : whole = []
    · subst none
      rw [List.nil_append] at filled ⊢
      exact ⟨'.' :: (spanDigits t).1, _, rfl, .fraction ⟨filled, more⟩, power⟩
    · refine ⟨_, _, ?_, .pointed ⟨none, digits⟩ more, power⟩
      rw [List.append_assoc, List.cons_append]

theorem read?_eq_some_iff {s : List Char} {numeral : Numeral} :
    Numeral.read? s = some numeral ↔ Numeral.scan s = (numeral, []) ∧ numeral.digits ≠ [] := by
  unfold Numeral.read?
  split
  next found scanned =>
    rw [scanned, Prod.mk.injEq, and_iff_left rfl]
    split
    next none =>
      rw [List.isEmpty_iff] at none
      refine iff_of_false nofun ?_
      rintro ⟨rfl, filled⟩
      exact filled none
    next filled =>
      rw [List.isEmpty_iff] at filled
      rw [Option.some_inj]
      exact ⟨fun same => ⟨same, same ▸ filled⟩, And.left⟩
  next left =>
    refine iff_of_false nofun ?_
    rintro ⟨taken, -⟩
    exact left _ taken

theorem unsigned_iff_read? {s : List Char} :
    Unsigned Char.isDigit s ↔ ∃ numeral, Numeral.read? s = some numeral := by
  simp only [read?_eq_some_iff]
  constructor
  · rintro ⟨mantissa, power, rfl, ofMantissa, ofPower⟩
    exact exists_scan ofPower ofMantissa
  · rintro ⟨numeral, taken, filled⟩
    exact unsigned_of_scan taken filled

theorem startsNumeral_of_unsigned {s : List Char} (unsigned : Unsigned Char.isDigit s) :
    startsNumeral s = true := by
  obtain ⟨mantissa, power, rfl, ofMantissa, -⟩ := unsigned
  have starts {t : List Char} (digits : Digits Char.isDigit t) : startsNumeral t = true := by
    obtain ⟨c, others, rfl⟩ := List.exists_cons_of_ne_nil digits.1
    exact startsNumeral_of_isDigit (digits.2 c List.mem_cons_self) others
  refine startsNumeral_append ?_ power
  cases ofMantissa with
  | whole digits => exact starts digits
  | pointed digits => exact startsNumeral_append (starts digits) _
  | @fraction t digits =>
      obtain ⟨c, others, rfl⟩ := List.exists_cons_of_ne_nil digits.1
      exact digits.2 c List.mem_cons_self

/-- A number is read from exactly the texts of the pattern, with the sign they have. -/
theorem readFloat?_eq_some_iff {s : List Char} {n : Float} :
    readFloat? s = some n ↔ ∃ sign ∈ signs, ∃ spelling numeral, s = sign ++ spelling ∧
      Unsigned Char.isDigit spelling ∧ Numeral.read? spelling = some numeral ∧
      numeral.toFloat (sign == ['-']) = n := by
  unfold readFloat?
  rw [Option.map_eq_some_iff]
  constructor
  · rintro ⟨numeral, read, value⟩
    obtain ⟨sign, signed, parts, negative⟩ := exists_sign s
    exact ⟨sign, signed, _, numeral, parts, unsigned_iff_read?.mpr ⟨numeral, read⟩, read,
      negative ▸ value⟩
  · rintro ⟨sign, signed, spelling, numeral, rfl, unsigned, read, value⟩
    have plain := scanSign_of_startsNumeral (startsNumeral_of_unsigned unsigned)
    rw [scanSign_sign signed plain]
    exact ⟨numeral, read, value⟩

theorem matches_iff_readFloat? {s : List Char} :
    Matches Char.isDigit s ↔ ∃ n, readFloat? s = some n := by
  constructor
  · rintro ⟨sign, signed, spelling, rfl, unsigned⟩
    obtain ⟨numeral, read⟩ := unsigned_iff_read?.mp unsigned
    exact ⟨_, readFloat?_eq_some_iff.mpr
      ⟨sign, signed, spelling, numeral, rfl, unsigned, read, rfl⟩⟩
  · rintro ⟨n, reads⟩
    obtain ⟨sign, signed, spelling, -, parts, unsigned, -⟩ := readFloat?_eq_some_iff.mp reads
    exact ⟨sign, signed, spelling, parts, unsigned⟩

/-- The texts that are a numeral all through are those of the pattern without a sign. -/
theorem spells_iff {s : List Char} {n : Float} :
    Spells s n ↔ Unsigned Char.isDigit s ∧ readFloat? s = some n ∧ n.isFinite = true := by
  constructor
  · rintro ⟨starts, reads, finite⟩
    refine ⟨?_, reads, finite⟩
    unfold readFloat? at reads
    rw [scanSign_of_startsNumeral starts, Option.map_eq_some_iff] at reads
    obtain ⟨numeral, read, -⟩ := reads
    exact unsigned_iff_read?.mpr ⟨numeral, read⟩
  · rintro ⟨unsigned, reads, finite⟩
    exact ⟨startsNumeral_of_unsigned unsigned, reads, finite⟩

theorem spells_of_read? {s : List Char} {numeral : Numeral} (read : Numeral.read? s = some numeral)
    (finite : (numeral.toFloat false).isFinite = true) : Spells s (numeral.toFloat false) := by
  have unsigned := unsigned_iff_read?.mpr ⟨numeral, read⟩
  have reads : readFloat? s = some (numeral.toFloat false) :=
    readFloat?_eq_some_iff.mpr ⟨[], List.mem_cons_self, s, numeral, rfl, unsigned, read, rfl⟩
  exact spells_iff.mpr ⟨unsigned, reads, finite⟩

end Pattern

end Spreadsheet.Decimal
