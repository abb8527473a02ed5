import Postal.Proofs.Fragment.Respacing
import Postal.Proofs.Text.Lines

namespace Postal

open Unicode

structure Firm (fragment : List Char) : Prop where
  filled : fragment ≠ []
  first : ∀ c ∈ fragment.head?, isWhitespace c = false
  last : ∀ c ∈ fragment.getLast?, isWhitespace c = false

instance (fragment : List Char) : Decidable (Firm fragment) :=
  decidable_of_iff (fragment ≠ [] ∧ fragment.head?.all (! isWhitespace ·) = true ∧
      fragment.getLast?.all (! isWhitespace ·) = true) <| by
    simp only [Option.all_eq_true, Bool.not_eq_true']
    exact ⟨fun ⟨filled, first, last⟩ => ⟨filled, first, last⟩,
      fun ⟨filled, first, last⟩ => ⟨filled, first, last⟩⟩

theorem Firm.trim_eq {fragment : List Char} (firm : Firm fragment) : trim fragment = fragment :=
  trim_eq_self firm.first firm.last

theorem removeEmpty_of_firm {fragments : List (List Char)}
    (firm : ∀ fragment ∈ fragments, Firm fragment) : removeEmpty fragments = fragments := by
  have trimmed : fragments.map trim = fragments :=
    (List.map_congr_left fun fragment mem => (firm fragment mem).trim_eq).trans (List.map_id _)
  rw [removeEmpty, trimmed, List.filter_eq_self]
  exact fun fragment mem => by simpa using (firm fragment mem).filled

theorem firm_of_mem_splitFragments {text fragment : List Char}
    (h : fragment ∈ splitFragments text) : Firm fragment := by
  obtain ⟨made, filled⟩ := List.mem_filter.mp h
  obtain ⟨piece, -, rfl⟩ := List.mem_map.mp made
  exact ⟨by simpa using filled, head?_trim piece, getLast?_trim piece⟩

theorem removeEmpty_removeEmpty (fragments : List (List Char)) :
    removeEmpty (removeEmpty fragments) = removeEmpty fragments := by
  induction fragments with
  | nil => rfl
  | cons fragment fragments ih =>
    have one : removeEmpty (removeEmpty [fragment]) = removeEmpty [fragment] := by
      by_cases blank : trim fragment = []
      · simp [removeEmpty, blank]
      · simp [removeEmpty, blank, trim_trim]
    rw [removeEmpty_cons, removeEmpty_append, one, ih]

theorem removeEmpty_splitFragments (text : List Char) :
    removeEmpty (splitFragments text) = splitFragments text :=
  removeEmpty_removeEmpty _

theorem tidyPiece_tidyPiece (piece : List Char) : tidyPiece (tidyPiece piece) = tidyPiece piece := by
  have mark : isWhitespace ' ' = true := by decide
  have same : collapse isInnerSpace ' ' (collapse isInnerSpace ' ' piece) =
      collapse isInnerSpace ' ' piece :=
    collapse_collapse (fun _ h => h) (by decide) piece
  rw [tidyPiece, tidyPiece, trim_collapse_trim mark, same]

theorem splitFragments_of_joined {text : List Char}
    (joined : ∀ c ∈ text, isFragmentSeparator c = false) :
    splitFragments text = [tidyPiece text].filter (! ·.isEmpty) := by
  rw [splitFragments_eq, splitWhere_of_forall_not joined]
  rfl

theorem splitFragments_of_tidy {fragment : List Char} (filled : fragment ≠ [])
    (joined : ∀ c ∈ fragment, isFragmentSeparator c = false) (tidy : tidyPiece fragment = fragment) :
    splitFragments fragment = [fragment] := by
  rw [splitFragments_of_joined joined, tidy]
  simp [filled]

theorem splitFragments_of_mem {fragment text : List Char} (h : fragment ∈ splitFragments text) :
    splitFragments fragment = [fragment] := by
  rw [splitFragments_eq, List.mem_filter] at h
  obtain ⟨made, filled⟩ := h
  obtain ⟨piece, part, rfl⟩ := List.mem_map.mp made
  have joined : ∀ c ∈ tidyPiece piece, isFragmentSeparator c = false := by
    intro c mem
    rcases mem_collapseAfter (mem_of_mem_trim mem) with ⟨inside, -⟩ | rfl
    · exact not_separator_of_mem_splitWhere part c inside
    · decide
  exact splitFragments_of_tidy (by simpa using filled) joined (tidyPiece_tidyPiece piece)

theorem isInnerSpace_of_isHorizontalSpace {c : Char} (h : isHorizontalSpace c = true) :
    isInnerSpace c = true := by
  rcases isHorizontalSpace_iff.mp h with rfl | rfl <;> decide

theorem splitFragments_collapse_spaces (text : List Char) :
    splitFragments (collapse isHorizontalSpace ' ' text) = splitFragments text := by
  have apart : ∀ c, isFragmentSeparator c = true → isHorizontalSpace c = false := by
    intro c separates
    simp only [isFragmentSeparator, Bool.or_eq_true, beq_iff_eq] at separates
    rcases separates with (rfl | rfl) | rfl <;> decide
  have tidied : tidyPiece ∘ collapse isHorizontalSpace ' ' = tidyPiece := by
    funext piece
    exact congrArg trim
      (collapse_collapse (fun _ => isInnerSpace_of_isHorizontalSpace) (by decide) piece)
  rw [splitFragments_eq, splitWhere_collapse apart (by decide), List.map_map, tidied,
    splitFragments_eq]

theorem linewise_splitFragments : Linewise splitFragments where
  empty := rfl
  split := splitFragments_append (by decide)
  first {c} space text := by
    have spaces : ∀ other ∈ [c], isInnerSpace other = true := by
      simpa using isInnerSpace_of_isHorizontalSpace space
    exact splitFragments_spaces_append spaces text
  last {c} space text := by
    have spaces : ∀ other ∈ [c], isInnerSpace other = true := by
      simpa using isInnerSpace_of_isHorizontalSpace space
    exact splitFragments_append_spaces spaces text
  inside := splitFragments_collapse_spaces

theorem splitFragments_trim (text : List Char) :
    splitFragments (trim text) = splitFragments text := by
  rw [splitFragments, trim_collapse_trim (by decide), splitFragments]

theorem splitFragments_cleanWhitespace (text : List Char) :
    splitFragments (cleanWhitespace text) = splitFragments text :=
  linewise_splitFragments.cleanWhitespace splitFragments_trim text

theorem isWhitespace_of_isInnerSpace {c : Char} (h : isInnerSpace c = true) :
    isWhitespace c = true := by
  simp only [isInnerSpace, Bool.or_eq_true, beq_iff_eq] at h
  rcases h with (rfl | rfl) | rfl <;> decide

theorem SingleSpaced.tidyPiece_eq {text : List Char} (h : SingleSpaced text) :
    tidyPiece text = text := by
  have same : collapse isInnerSpace ' ' text = text :=
    h.collapseAfter_eq (fun _ => isWhitespace_of_isInnerSpace) false
  rw [tidyPiece, same, h.trim_eq]

theorem splitFragments_of_single {fragment : List Char} (filled : fragment ≠ [])
    (joined : ∀ c ∈ fragment, isFragmentSeparator c = false) (single : SingleSpaced fragment) :
    splitFragments fragment = [fragment] :=
  splitFragments_of_tidy filled joined single.tidyPiece_eq

theorem splitFragments_intercalate {fragments : List (List Char)}
    (whole : ∀ fragment ∈ fragments, splitFragments fragment = [fragment]) :
    splitFragments ([',', ' '].intercalate fragments) = fragments := by
  induction fragments with
  | nil => rfl
  | cons fragment fragments ih =>
    have first : splitFragments fragment = [fragment] := whole fragment List.mem_cons_self
    have rest := ih fun other mem => whole other (List.mem_cons_of_mem fragment mem)
    cases fragments with
    | nil => simpa using first
    | cons next others =>
      have joint : [',', ' '].intercalate (fragment :: next :: others) =
          fragment ++ ',' :: ([' '] ++ [',', ' '].intercalate (next :: others)) := by
        simp
      rw [joint, splitFragments_append (by decide), splitFragments_spaces_append forall_space, rest,
        first, List.singleton_append]

end Postal
