import Spreadsheet.Proofs.Decimal.Display
import Spreadsheet.Proofs.Json.Print
import Spreadsheet.Snapshot.Record
import Spreadsheet.Snapshot.Single

namespace Spreadsheet.Json

open Spreadsheet.Text
open Spreadsheet.Decimal

/-- The document of a value is well spelled and reads as the value. It is not null, which would
stand for no value. -/
structure Restores (write : α → Json) (read : Json → Option α) (x : α) : Prop where
  read_write : read (write x) = some x
  spelled : Spelled (write x)
  ne_null : write x ≠ .null

theorem restores_boolean (b : Bool) : Restores .boolean boolean? b := ⟨rfl, .boolean b, nofun⟩

theorem restores_text (s : String) : Restores ofText text? s :=
  ⟨text?_ofText s, .string (closed_escape _), nofun⟩

/-- Names of cases are spelled as texts. -/
theorem restores_word {word : α → String} {ofWord? : String → Option α} {x : α}
    (named : ofWord? (word x) = some x) :
    Restores (fun x => ofText (word x)) (fun json => json.case?.bind ofWord?) x := by
  refine ⟨?_, .string (closed_escape _), nofun⟩
  change (ofText (word x)).text?.bind ofWord? = some x
  rw [text?_ofText, Option.bind_some, named]

theorem spelled_ofNat (n : Nat) : Spelled (ofNat n) := by
  have valid : Numeral.Valid ⟨decimalDigits n, none, none⟩ :=
    ⟨decimalDigits_ne_nil n, fun c => isDigit_of_mem_decimalDigits, nofun, nofun, nofun⟩
  have plain : Numeral.Plain ⟨decimalDigits n, none, none⟩ := by
    refine ⟨fun zero => ?_, nofun⟩
    obtain rfl | positive := Nat.eq_zero_or_pos n
    · rfl
    · exact absurd zero (head?_decimalDigits positive)
  have print : sign false ++ Numeral.print ⟨decimalDigits n, none, none⟩ = decimalDigits n := by
    simp [sign, Numeral.print]
  have spelled := Spelled.number false valid plain
  rwa [print] at spelled

theorem nat?_ofNat (n : Nat) : (ofNat n).nat? = some n := by
  have isDigit : (decimalDigits n).all Char.isDigit = true :=
    List.all_eq_true.mpr fun c => isDigit_of_mem_decimalDigits
  unfold ofNat nat?
  dsimp only
  rw [if_pos isDigit, decimalValue_decimalDigits]

theorem restores_below {n bound : Nat} (below : n < bound) : Restores ofNat (below? bound) n := by
  refine ⟨?_, spelled_ofNat n, nofun⟩
  unfold below?
  rw [nat?_ofNat]
  exact Option.filter_eq_some_iff.mpr ⟨rfl, decide_eq_true below⟩

theorem spelled_ofSingle {x : Float32} (finite : x.isFinite = true) : Spelled (ofSingle x) := by
  obtain ⟨negative, mantissa, exponent, same⟩ := Binary.isFinite_iff_datum32.mp finite
  obtain ⟨holds, most⟩ := Binary.holds_of_datum32 same
  have signs : Style.snapshot.plusSign = true := rfl
  obtain ⟨numeral, valid, plain, print⟩ := print_spellDatum signs Binary.single negative
    (show mantissa < twoTo 53 from Nat.lt_trans holds.fits (by decide))
    (show -1074 ≤ exponent from Int.le_trans (by decide) holds.least_le) (by omega)
  unfold ofSingle spell32
  rw [if_pos finite, same, print]
  exact .number negative valid plain

/-- A number that has a spelling and is read from it. -/
theorem restores_single {x : Float32} (reads : single? (ofSingle x) = some x) :
    Restores ofSingle single? x := by
  have finite : x.isFinite = true := by
    by_contra infinite
    unfold ofSingle at reads
    rw [if_neg infinite] at reads
    cases reads
  refine ⟨reads, spelled_ofSingle finite, ?_⟩
  unfold ofSingle
  rw [if_pos finite]
  nofun

section Items

variable {write : α → Json} {read : Json → Option α} {items : List α}
  (restores : ∀ item ∈ items, Restores write read item)

include restores

theorem mapM_read : (items.map write).mapM read = some items := by
  induction items with
  | nil => rfl
  | cons item items ih =>
      obtain ⟨first, others⟩ := List.forall_mem_cons.mp restores
      rw [List.map_cons, List.mapM_cons, first.read_write, ih others]
      rfl

theorem restores_items :
    Restores (fun items => .array (items.map write)) (fun json => json.items?.bind (·.mapM read))
      items where
  read_write := mapM_read restores
  spelled := .array (List.forall_mem_map.mpr fun item member => (restores item member).spelled)
  ne_null := nofun

end Items

theorem members?_ofMembers (members : List (String × Json)) :
    (ofMembers members).members? = some members := by
  unfold ofMembers members?
  dsimp only
  induction members with
  | nil => rfl
  | cons member members ih =>
      rw [List.map_cons, List.mapM_cons, ih]
      dsimp only
      rw [unescape_escape]
      dsimp only [Option.map_some]
      rw [String.ofList_toList]
      rfl

/-- The members that a record with these fields has. -/
def present (fields : List (String × Option Json)) : List (String × Json) :=
  fields.filterMap fun field => field.2.map (field.1, ·)

section Fields

variable {fields : List (String × Option Json)}

theorem filter_present_eq_nil {name : String} (absent : name ∉ fields.map Prod.fst) :
    (present fields).filter (·.1 == name) = [] := by
  refine List.filter_eq_nil_iff.mpr fun member found same => absent ?_
  obtain ⟨field, listed, some⟩ := List.mem_filterMap.mp found
  obtain ⟨json, -, rfl⟩ := Option.map_eq_some_iff.mp some
  rw [← eq_of_beq same]
  exact List.mem_map_of_mem listed

theorem present_cons (field : String × Option Json) :
    present (field :: fields) = (field.2.map (field.1, ·)).toList ++ present fields := by
  obtain ⟨name, _ | json⟩ := field <;> rfl

theorem filter_present (distinct : (fields.map Prod.fst).Nodup) {field : String × Option Json}
    (member : field ∈ fields) :
    (present fields).filter (·.1 == field.1) = (field.2.map (field.1, ·)).toList := by
  induction fields with
  | nil => cases member
  | cons head rest ih =>
      obtain ⟨absent, distinct⟩ := List.nodup_cons.mp distinct
      rw [present_cons, List.filter_append]
      rcases List.mem_cons.mp member with rfl | behind
      · rw [filter_present_eq_nil absent, List.append_nil, List.filter_eq_self]
        intro found present
        obtain ⟨json, -, rfl⟩ := Option.map_eq_some_iff.mp (Option.mem_toList.mp present)
        exact beq_self_eq_true _
      · rw [ih distinct behind, List.filter_eq_nil_iff.mpr, List.nil_append]
        intro found present same
        obtain ⟨json, -, rfl⟩ := Option.map_eq_some_iff.mp (Option.mem_toList.mp present)
        refine absent ?_
        rw [eq_of_beq same]
        exact List.mem_map_of_mem behind

theorem field?_present (distinct : (fields.map Prod.fst).Nodup) {field : String × Option Json}
    (member : field ∈ fields) : field? (present fields) field.1 = some field.2 := by
  unfold field?
  rw [filter_present distinct member]
  cases field.2 <;> rfl

theorem mapM_field? {all : List (String × Option Json)} (distinct : (all.map Prod.fst).Nodup)
    (part : fields ⊆ all) :
    (fields.map Prod.fst).mapM (field? (present all)) = some (fields.map Prod.snd) := by
  induction fields with
  | nil => rfl
  | cons field rest ih =>
      obtain ⟨first, others⟩ := List.cons_subset.mp part
      rw [List.map_cons, List.mapM_cons, field?_present distinct first, ih others]
      rfl

end Fields

section Record

variable {names : List String} {values : List (Option Json)} (distinct : names.Nodup)
  (full : names.length = values.length)

include distinct full

theorem fields?_ofFields : (ofFields (names.zip values)).fields? names = some values := by
  have keys : (names.zip values).map Prod.fst = names := List.map_fst_zip (Nat.le_of_eq full)
  have contents : (names.zip values).map Prod.snd = values :=
    List.map_snd_zip (Nat.le_of_eq full.symm)
  have apart : ((names.zip values).map Prod.fst).Nodup := by rwa [keys]
  have found := mapM_field? apart (List.Subset.refl _)
  rw [keys, contents] at found
  change (ofMembers (present (names.zip values))).members?.bind
    (fun members => names.mapM (field? members)) = _
  rw [members?_ofMembers, Option.bind_some, found]

end Record

theorem spelled_ofMembers {members : List (String × Json)}
    (spelled : ∀ member ∈ members, Spelled member.2) : Spelled (ofMembers members) :=
  .object (List.forall_mem_map.mpr fun _ _ => closed_escape _) (List.forall_mem_map.mpr spelled)

theorem spelled_ofFields {names : List String} {values : List (Option Json)}
    (spelled : ∀ value ∈ values, ∀ json ∈ value, Spelled json) :
    Spelled (ofFields (names.zip values)) := by
  refine spelled_ofMembers fun member found => ?_
  obtain ⟨field, listed, some⟩ := List.mem_filterMap.mp found
  obtain ⟨json, same, rfl⟩ := Option.map_eq_some_iff.mp some
  exact spelled field.2 (List.of_mem_zip listed).2 json same

section Optional

variable {write : α → Json} {read : Json → Option α} {x : Option α}
  (restores : ∀ y ∈ x, Restores write read y)

include restores

theorem optional_map : optional read (x.map write) = some x := by
  cases x with
  | none => rfl
  | some y =>
      obtain ⟨reads, -, filled⟩ := restores y rfl
      rw [Option.map_some]
      unfold optional
      split
      next null => cases null
      next null => exact absurd (Option.some.inj null) filled
      next json same =>
        rw [← Option.some.inj same, reads]
        rfl

theorem spelled_map : ∀ json ∈ x.map write, Spelled json := by
  intro json found
  obtain ⟨y, same, rfl⟩ := Option.map_eq_some_iff.mp found
  exact (restores y same).spelled

end Optional

end Spreadsheet.Json
