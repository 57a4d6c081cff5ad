import Mathlib.Tactic
import Spreadsheet.Builtin.Apply

namespace Spreadsheet.Excerpt

/-- The longest runs of other characters than the space, in order. -/
inductive Pieces : List Char → List (List Char) → Prop
  | nil : Pieces [] []
  | space {s : List Char} {pieces : List (List Char)} (behind : Pieces s pieces) :
      Pieces (' ' :: s) pieces
  | piece {piece rest : List Char} {pieces : List (List Char)} (filled : piece ≠ [])
      (plain : ' ' ∉ piece) (ends : ∀ c, rest.head? = some c → c = ' ')
      (behind : Pieces rest pieces) : Pieces (piece ++ rest) (piece :: pieces)

/-- No space stands at an end or next to another one. -/
structure Squeezed (s : List Char) : Prop where
  first : s.head? ≠ some ' '
  last : s.getLast? ≠ some ' '
  apart : s.IsChain fun c d => c ≠ ' ' ∨ d ≠ ' '

/-- What stands between the spaces and is not empty. -/
def words (s : List Char) : List (List Char) := (s.splitOn ' ').filter (!·.isEmpty)

theorem words_append_space (front back : List Char) :
    words (front ++ ' ' :: back) = words front ++ words back := by
  unfold words
  rw [List.splitOn_append_cons_self, List.filter_append]

theorem words_nil : words [] = [] := by
  unfold words
  rw [List.splitOn_nil]
  rfl

theorem words_space (s : List Char) : words (' ' :: s) = words s := by
  have split := words_append_space [] s
  rwa [words_nil] at split

theorem words_of_plain {piece : List Char} (filled : piece ≠ []) (plain : ' ' ∉ piece) :
    words piece = [piece] := by
  unfold words
  rw [List.splitOn_eq_singleton plain, List.filter_cons_of_pos (by simpa using filled)]
  rfl

namespace Pieces

variable {s : List Char} {pieces : List (List Char)}

theorem words_eq (found : Pieces s pieces) : words s = pieces := by
  induction found with
  | nil => exact words_nil
  | space _ ih => exact (words_space _).trans ih
  | @piece piece rest pieces filled plain ends _ ih =>
      cases rest with
      | nil => rw [← ih, List.append_nil, words_nil, words_of_plain filled plain]
      | cons c others =>
          obtain rfl := ends c rfl
          rw [words_append_space, words_of_plain filled plain, ← words_space, ih]
          rfl

theorem filled_plain (found : Pieces s pieces) : ∀ piece ∈ pieces, piece ≠ [] ∧ ' ' ∉ piece := by
  induction found with
  | nil => exact List.forall_mem_nil _
  | space _ ih => exact ih
  | piece filled plain _ _ ih => exact List.forall_mem_cons.mpr ⟨⟨filled, plain⟩, ih⟩

theorem flatten_eq (found : Pieces s pieces) : s.filter (· != ' ') = pieces.flatten := by
  induction found with
  | nil => rfl
  | space _ ih => exact ih
  | @piece piece rest pieces _ plain _ _ ih =>
      have whole : piece.filter (· != ' ') = piece := by
        refine List.filter_eq_self.mpr fun c member => bne_iff_ne.mpr ?_
        rintro rfl
        exact plain member
      rw [List.filter_append, whole, ih, List.flatten_cons]

end Pieces

/-- A character in front makes the first piece longer, or is one, unless it is a space. -/
theorem exists_pieces (s : List Char) : ∃ pieces, Pieces s pieces := by
  induction s with
  | nil => exact ⟨[], .nil⟩
  | cons c s ih =>
      obtain ⟨pieces, found⟩ := ih
      by_cases space : c = ' '
      · subst space
        exact ⟨pieces, .space found⟩
      · have single : ' ' ∉ [c] := fun member => space (List.mem_singleton.mp member).symm
        cases found with
        | nil => exact ⟨_, @Pieces.piece [c] [] [] (List.cons_ne_nil _ _) single nofun .nil⟩
        | @space s _ behind =>
            refine ⟨_, @Pieces.piece [c] (' ' :: s) _ (List.cons_ne_nil _ _) single ?_
              (.space behind)⟩
            rintro _ ⟨⟩
            rfl
        | @piece piece rest _ _ plain ends behind =>
            refine ⟨_, @Pieces.piece (c :: piece) rest _ (List.cons_ne_nil _ _) ?_ ends behind⟩
            exact List.not_mem_cons_of_ne_of_not_mem (Ne.symm space) plain

theorem pieces_iff {s : List Char} {pieces : List (List Char)} :
    Pieces s pieces ↔ pieces = words s := by
  constructor
  · exact fun found => found.words_eq.symm
  · rintro rfl
    obtain ⟨pieces, found⟩ := exists_pieces s
    rwa [found.words_eq]

theorem squeeze_eq (s : List Char) : squeeze s = [' '].intercalate (words s) := rfl

theorem intercalate_cons (piece : List Char) (pieces : List (List Char)) :
    [' '].intercalate (piece :: pieces) = piece ++ pieces.flatMap (' ' :: ·) := by
  induction pieces generalizing piece with
  | nil => rw [List.intercalate_singleton, List.flatMap_nil, List.append_nil]
  | cons next pieces ih =>
      rw [List.intercalate_cons_cons, ih, List.append_assoc, List.flatMap_cons]
      rfl

section Plain

variable {piece : List Char}

theorem head?_append_of_plain (filled : piece ≠ []) (plain : ' ' ∉ piece) (rest : List Char) :
    (piece ++ rest).head? ≠ some ' ' := by
  rw [List.head?_append_of_ne_nil _ filled]
  exact fun head => plain (List.mem_of_head? head)

theorem squeezed_of_plain (plain : ' ' ∉ piece) : Squeezed piece where
  first head := plain (List.mem_of_head? head)
  last final := plain (List.mem_of_getLast? final)
  apart := by
    refine (List.pairwise_of_forall_mem_list fun c member d _ => .inl ?_).isChain
    rintro rfl
    exact plain member

theorem Squeezed.behind {s : List Char} (squeezed : Squeezed s) (nonempty : s ≠ [])
    (filled : piece ≠ []) (plain : ' ' ∉ piece) : Squeezed (piece ++ ' ' :: s) where
  first := head?_append_of_plain filled plain _
  last := by
    rw [List.getLast?_append_of_ne_nil _ (List.cons_ne_nil _ _),
      List.getLast?_cons_of_ne_nil nonempty]
    exact squeezed.last
  apart := by
    refine List.isChain_append.mpr ⟨(squeezed_of_plain plain).apart, ?_, ?_⟩
    · refine List.isChain_cons.mpr ⟨fun c head => .inr ?_, squeezed.apart⟩
      rintro rfl
      exact squeezed.first head
    · intro c final d _
      refine .inl ?_
      rintro rfl
      exact (squeezed_of_plain plain).last final

end Plain

section Separated

variable {s : List Char} {pieces : List (List Char)}

theorem squeezed_intercalate (each : ∀ piece ∈ pieces, piece ≠ [] ∧ ' ' ∉ piece) :
    Squeezed ([' '].intercalate pieces) ∧ Pieces ([' '].intercalate pieces) pieces := by
  induction pieces with
  | nil => exact ⟨squeezed_of_plain List.not_mem_nil, .nil⟩
  | cons piece pieces ih =>
      obtain ⟨⟨filled, plain⟩, others⟩ := List.forall_mem_cons.mp each
      obtain ⟨squeezed, found⟩ := ih others
      cases pieces with
      | nil =>
          have single : Pieces (piece ++ []) [piece] := .piece filled plain nofun .nil
          rw [List.append_nil] at single
          rw [List.intercalate_singleton]
          exact ⟨squeezed_of_plain plain, single⟩
      | cons next pieces =>
          rw [List.intercalate_cons_cons, List.append_assoc]
          refine ⟨squeezed.behind ?_ filled plain, .piece filled plain ?_ (.space found)⟩
          · intro none
            rw [none] at found
            exact List.cons_ne_nil _ _ (found.words_eq.symm.trans words_nil)
          · rintro _ ⟨⟩
            rfl

/-- Behind each space one piece begins, but for the first piece of a text. -/
theorem Pieces.eq_of_squeezed (found : Pieces s pieces) (last : s.getLast? ≠ some ' ')
    (apart : s.IsChain fun c d => c ≠ ' ' ∨ d ≠ ' ') :
    (s.head? = some ' ' → s = pieces.flatMap (' ' :: ·)) ∧
      (s.head? ≠ some ' ' → s = [' '].intercalate pieces) := by
  induction found with
  | nil => exact ⟨nofun, fun _ => rfl⟩
  | @space s pieces behind ih =>
      refine ⟨fun _ => ?_, fun first => absurd rfl first⟩
      cases behind with
      | nil => exact absurd rfl last
      | space => exact absurd (List.isChain_cons_cons.mp apart).1 (by simp)
      | @piece piece rest pieces filled plain ends behind =>
          have nonempty := List.append_ne_nil_of_left_ne_nil filled rest
          rw [List.getLast?_cons_of_ne_nil nonempty] at last
          have first := head?_append_of_plain filled plain rest
          rw [(ih last (List.isChain_cons.mp apart).2).2 first, intercalate_cons]
          rfl
  | @piece piece rest pieces filled plain ends behind ih =>
      refine ⟨fun head => absurd head (head?_append_of_plain filled plain rest), fun _ => ?_⟩
      rw [intercalate_cons]
      cases rest with
      | nil => rw [← behind.words_eq, words_nil, List.flatMap_nil]
      | cons c others =>
          obtain rfl := ends c rfl
          rw [List.getLast?_append_of_ne_nil _ (List.cons_ne_nil _ _)] at last
          rw [← (ih last (List.isChain_append.mp apart).2.1).1 rfl]

theorem squeezed_squeeze (s : List Char) :
    Squeezed (squeeze s) ∧ Pieces (squeeze s) (words s) := by
  rw [squeeze_eq]
  exact squeezed_intercalate (pieces_iff.mpr rfl).filled_plain

theorem squeeze_of_squeezed (squeezed : Squeezed s) : squeeze s = s := by
  have found : Pieces s (words s) := pieces_iff.mpr rfl
  rw [squeeze_eq]
  exact ((found.eq_of_squeezed squeezed.last squeezed.apart).2 squeezed.first).symm

end Separated

/-- The function gives the text with the same pieces that has no space at its ends and no two in a
row, so that all other characters are kept, and it changes nothing else. -/
theorem trim_normalises (s : String) :
    ∃ t : String, Strict.trim.apply [.text s] = .ok (.text t) ∧ Squeezed t.toList ∧
      (∃ pieces, ∀ others, (Pieces s.toList others ↔ others = pieces) ∧
        (Pieces t.toList others ↔ others = pieces)) ∧
      t.toList.filter (· != ' ') = s.toList.filter (· != ' ') ∧
      Strict.trim.apply [.text t] = .ok (.text t) ∧ (t = s ↔ Squeezed s.toList) := by
  obtain ⟨squeezed, found⟩ := squeezed_squeeze s.toList
  have trims (s : String) :
      Strict.trim.apply [.text s] = .ok (.text (.ofList (squeeze s.toList))) := rfl
  refine ⟨.ofList (squeeze s.toList), trims s, ?_⟩
  rw [trims, String.toList_ofList, squeeze_of_squeezed squeezed]
  refine ⟨squeezed, ⟨words s.toList, fun others => ⟨pieces_iff, ?_⟩⟩, ?_, rfl, ?_⟩
  · rw [pieces_iff, found.words_eq]
  · rw [found.flatten_eq, (pieces_iff.mpr rfl : Pieces s.toList _).flatten_eq]
  · constructor
    · intro same
      rw [← same, String.toList_ofList]
      exact squeezed
    · intro already
      rw [squeeze_of_squeezed already, String.ofList_toList]

end Spreadsheet.Excerpt
