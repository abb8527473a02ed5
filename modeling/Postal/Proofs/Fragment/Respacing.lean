import Mathlib.Data.List.Induction
import Mathlib.Logic.Relation
import Postal.Parsing
import Postal.Proofs.Text.Spacing

namespace Postal

def tidyPiece (piece : List Char) : List Char :=
  trim (collapse isInnerSpace ' ' piece)

theorem not_isInnerSpace_of_isFragmentSeparator {c : Char} (h : isFragmentSeparator c = true) :
    isInnerSpace c = false := by
  simp only [isFragmentSeparator, Bool.or_eq_true, beq_iff_eq] at h
  rcases h with (rfl | rfl) | rfl <;> decide

theorem not_isFragmentSeparator_of_isInnerSpace {c : Char} (h : isInnerSpace c = true) :
    isFragmentSeparator c = false := by
  cases separates : isFragmentSeparator c with
  | false => rfl
  | true => rw [not_isInnerSpace_of_isFragmentSeparator separates] at h; cases h

theorem removeEmpty_append (first second : List (List Char)) :
    removeEmpty (first ++ second) = removeEmpty first ++ removeEmpty second := by
  simp [removeEmpty]

theorem removeEmpty_cons (piece : List Char) (others : List (List Char)) :
    removeEmpty (piece :: others) = removeEmpty [piece] ++ removeEmpty others :=
  removeEmpty_append [piece] others

theorem removeEmpty_congr {piece other : List Char} (h : trim piece = trim other) :
    removeEmpty [piece] = removeEmpty [other] := by
  simp [removeEmpty, h]

theorem removeEmpty_splitWhere_cons {c : Char} (h : Unicode.isWhitespace c = true)
    (text : List Char) : removeEmpty (splitWhere isFragmentSeparator (c :: text)) =
      removeEmpty (splitWhere isFragmentSeparator text) := by
  cases separates : isFragmentSeparator c with
  | true => rw [splitWhere_cons_of_separator separates]; rfl
  | false =>
    obtain ⟨piece, others, split, more⟩ := splitWhere_cons_of_not_separator separates text
    rw [split, more, removeEmpty_cons, removeEmpty_cons piece, removeEmpty_congr (trim_cons h piece)]

theorem removeEmpty_splitWhere_append {c : Char} (h : Unicode.isWhitespace c = true)
    (text : List Char) : removeEmpty (splitWhere isFragmentSeparator (text ++ [c])) =
      removeEmpty (splitWhere isFragmentSeparator text) := by
  cases separates : isFragmentSeparator c with
  | true =>
    rw [splitWhere_append_separator separates, removeEmpty_append]
    exact List.append_nil _
  | false =>
    obtain ⟨earlier, last, first, later, before, after, split⟩ :=
      exists_splitWhere_append isFragmentSeparator text []
    obtain ⟨rfl, rfl⟩ := List.cons.inj after
    have grown := split [c] (by simpa using separates)
    rw [List.append_nil] at grown
    rw [grown, before, removeEmpty_append, removeEmpty_append,
      removeEmpty_congr (trim_append h last)]

theorem removeEmpty_splitWhere_trim (text : List Char) :
    removeEmpty (splitWhere isFragmentSeparator (trim text)) =
      removeEmpty (splitWhere isFragmentSeparator text) :=
  apply_trim (fun text => removeEmpty (splitWhere isFragmentSeparator text))
    removeEmpty_splitWhere_cons removeEmpty_splitWhere_append text

theorem splitFragments_eq (text : List Char) : splitFragments text =
    ((splitWhere isFragmentSeparator text).map tidyPiece).filter (! ·.isEmpty) := by
  rw [splitFragments, removeEmpty_splitWhere_trim,
    splitWhere_collapse (fun _ => not_isInnerSpace_of_isFragmentSeparator) (by decide), removeEmpty,
    List.map_map]
  rfl

theorem splitFragments_append {c : Char} (h : isFragmentSeparator c = true)
    (before after : List Char) :
    splitFragments (before ++ c :: after) = splitFragments before ++ splitFragments after := by
  simp only [splitFragments_eq, splitWhere_append_separator h, List.map_append, List.filter_append]

theorem splitFragments_cons {c : Char} (h : isFragmentSeparator c = true) (text : List Char) :
    splitFragments (c :: text) = splitFragments text :=
  splitFragments_append h [] text

theorem splitFragments_concat {c : Char} (h : isFragmentSeparator c = true) (text : List Char) :
    splitFragments (text ++ [c]) = splitFragments text :=
  (splitFragments_append h text []).trans (List.append_nil _)

theorem splitFragments_congr {before after middle other : List Char}
    (joined : ∀ c ∈ middle, isFragmentSeparator c = false)
    (joined' : ∀ c ∈ other, isFragmentSeparator c = false)
    (same : ∀ last first, tidyPiece (last ++ (middle ++ first)) = tidyPiece (last ++ (other ++ first))) :
    splitFragments (before ++ (middle ++ after)) = splitFragments (before ++ (other ++ after)) := by
  obtain ⟨earlier, last, first, later, -, -, split⟩ :=
    exists_splitWhere_append isFragmentSeparator before after
  simp only [splitFragments_eq, split middle joined, split other joined', List.map_append,
    List.map_cons, same]

theorem forall_space : ∀ c ∈ [' '], isInnerSpace c = true := by
  simp [isInnerSpace]

theorem splitFragments_spaces_append {spaces : List Char}
    (h : ∀ c ∈ spaces, isInnerSpace c = true) (text : List Char) :
    splitFragments (spaces ++ text) = splitFragments text := by
  obtain ⟨earlier, last, first, later, before, after, split⟩ :=
    exists_splitWhere_append isFragmentSeparator [] text
  have joined := split spaces fun c mem => not_isFragmentSeparator_of_isInnerSpace (h c mem)
  have alone : earlier = [] ∧ last = [] := by
    cases earlier with
    | nil => exact ⟨rfl, (List.cons.inj before).1.symm⟩
    | cons piece earlier => simp at before
  obtain ⟨rfl, rfl⟩ := alone
  have tidied : tidyPiece (spaces ++ first) = tidyPiece first :=
    trim_collapse_append_left (by decide) h first
  rw [List.nil_append, List.nil_append, List.nil_append] at joined
  simp only [splitFragments_eq, joined, after, List.map_cons, tidied]

theorem splitFragments_append_spaces {spaces : List Char}
    (h : ∀ c ∈ spaces, isInnerSpace c = true) (text : List Char) :
    splitFragments (text ++ spaces) = splitFragments text := by
  obtain ⟨earlier, last, first, later, before, after, split⟩ :=
    exists_splitWhere_append isFragmentSeparator text []
  obtain ⟨rfl, rfl⟩ := List.cons.inj after
  have joined := split spaces fun c mem => not_isFragmentSeparator_of_isInnerSpace (h c mem)
  have tidied : tidyPiece (last ++ spaces) = tidyPiece last :=
    trim_collapse_append (by decide) h last
  rw [List.append_nil] at joined
  simp only [splitFragments_eq, joined, before, List.map_append, List.map_cons, tidied]

/-- One change of the separators or spaces of a text. A separator may be exchanged, doubled, or
added at an end; a run of spaces inside of a fragment may be exchanged for another one; spaces may
be put beside a separator or at an end. -/
inductive Respacing : List Char → List Char → Prop
  | exchange {old new : Char} (before after : List Char) (separates : isFragmentSeparator old = true)
      (separates' : isFragmentSeparator new = true) :
      Respacing (before ++ old :: after) (before ++ new :: after)
  | double {c : Char} (before after : List Char) (separates : isFragmentSeparator c = true) :
      Respacing (before ++ c :: after) (before ++ c :: c :: after)
  | separatorFirst {c : Char} (text : List Char) (separates : isFragmentSeparator c = true) :
      Respacing text (c :: text)
  | separatorLast {c : Char} (text : List Char) (separates : isFragmentSeparator c = true) :
      Respacing text (text ++ [c])
  | spacesBetween (before old new after : List Char) (filled : old ≠ [])
      (filled' : new ≠ []) (spaces : ∀ c ∈ old, isInnerSpace c = true)
      (spaces' : ∀ c ∈ new, isInnerSpace c = true) :
      Respacing (before ++ (old ++ after)) (before ++ (new ++ after))
  | spacesBefore {c : Char} (before new after : List Char)
      (separates : isFragmentSeparator c = true) (spaces : ∀ c ∈ new, isInnerSpace c = true) :
      Respacing (before ++ c :: after) ((before ++ new) ++ c :: after)
  | spacesAfter {c : Char} (before new after : List Char)
      (separates : isFragmentSeparator c = true) (spaces : ∀ c ∈ new, isInnerSpace c = true) :
      Respacing (before ++ c :: after) (before ++ c :: (new ++ after))
  | spacesFirst (new text : List Char) (spaces : ∀ c ∈ new, isInnerSpace c = true) :
      Respacing text (new ++ text)
  | spacesLast (text new : List Char) (spaces : ∀ c ∈ new, isInnerSpace c = true) :
      Respacing text (text ++ new)

theorem tidyPiece_congr {old new : List Char} (filled : old ≠ []) (filled' : new ≠ [])
    (spaces : ∀ c ∈ old, isInnerSpace c = true) (spaces' : ∀ c ∈ new, isInnerSpace c = true)
    (last first : List Char) :
    tidyPiece (last ++ (old ++ first)) = tidyPiece (last ++ (new ++ first)) := by
  simp only [tidyPiece, collapse, collapseAfter_append_run filled spaces,
    collapseAfter_append_run filled' spaces']

theorem Respacing.splitFragments_eq {text other : List Char} (h : Respacing text other) :
    splitFragments text = splitFragments other := by
  cases h with
  | exchange before after separates separates' =>
    rw [splitFragments_append separates, splitFragments_append separates']
  | double before after separates =>
    rw [splitFragments_append separates, splitFragments_append separates,
      splitFragments_cons separates]
  | separatorFirst _ separates => exact (splitFragments_cons separates text).symm
  | separatorLast _ separates => exact (splitFragments_concat separates text).symm
  | spacesBetween before old new after filled filled' spaces spaces' =>
    exact splitFragments_congr
      (fun c mem => not_isFragmentSeparator_of_isInnerSpace (spaces c mem))
      (fun c mem => not_isFragmentSeparator_of_isInnerSpace (spaces' c mem))
      (tidyPiece_congr filled filled' spaces spaces')
  | spacesBefore before new after separates spaces =>
    rw [splitFragments_append separates, splitFragments_append separates,
      splitFragments_append_spaces spaces]
  | spacesAfter before new after separates spaces =>
    rw [splitFragments_append separates, splitFragments_append separates,
      splitFragments_spaces_append spaces]
  | spacesFirst new _ spaces => exact (splitFragments_spaces_append spaces text).symm
  | spacesLast _ new spaces => exact (splitFragments_append_spaces spaces text).symm

/-- Any number of such changes, made or taken back, leaves all fragments of a text as they are. So
the text is parsed by the same program as before, with the same result on every store. -/
theorem splitFragments_of_respaced {text other : List Char}
    (respaced : Relation.EqvGen Respacing text other) :
    splitFragments text = splitFragments other ∧
      ∀ locale, parse locale (.text (String.ofList text)) =
        parse locale (.text (String.ofList other)) := by
  have same : splitFragments text = splitFragments other := by
    induction respaced with
    | rel text other change => exact change.splitFragments_eq
    | refl text => rfl
    | symm text other _ ih => exact ih.symm
    | trans first second third _ _ ih ih' => exact ih.trans ih'
  refine ⟨same, fun locale => ?_⟩
  have prepared : ∀ tables, prepare text tables locale = prepare other tables locale := by
    intro tables
    rw [prepare, prepare, same]
  simp only [parse, String.toList_ofList, prepared]

theorem splitFragments_of_ulm_respaced :
    let text := ['1', '2', ' ', 'U', 'l', 'm', '\n', 'D', 'E']
    let other := [',', '1', '2', '\t', '\r', 'U', 'l', 'm', ' ', '，', 'D', 'E']
    Relation.EqvGen Respacing text other ∧
      ∀ locale, parse locale (.text (String.ofList text)) =
        parse locale (.text (String.ofList other)) := by
  intro text other
  have exchanged : Respacing text ['1', '2', ' ', 'U', 'l', 'm', '，', 'D', 'E'] :=
    .exchange ['1', '2', ' ', 'U', 'l', 'm'] ['D', 'E'] (by decide) (by decide)
  have spaced : Respacing ['1', '2', ' ', 'U', 'l', 'm', '，', 'D', 'E']
      ['1', '2', ' ', 'U', 'l', 'm', ' ', '，', 'D', 'E'] :=
    .spacesBefore ['1', '2', ' ', 'U', 'l', 'm'] [' '] ['D', 'E'] (by decide) forall_space
  have replaced : Respacing ['1', '2', ' ', 'U', 'l', 'm', ' ', '，', 'D', 'E']
      ['1', '2', '\t', '\r', 'U', 'l', 'm', ' ', '，', 'D', 'E'] :=
    .spacesBetween ['1', '2'] [' '] ['\t', '\r']
      ['U', 'l', 'm', ' ', '，', 'D', 'E'] (by decide) (by decide) forall_space
      (by simp [isInnerSpace])
  have added : Respacing ['1', '2', '\t', '\r', 'U', 'l', 'm', ' ', '，', 'D', 'E'] other :=
    .separatorFirst _ (by decide)
  have respaced : Relation.EqvGen Respacing text other :=
    .trans _ _ _ (.rel _ _ exchanged) (.trans _ _ _ (.rel _ _ spaced)
      (.trans _ _ _ (.rel _ _ replaced) (.rel _ _ added)))
  exact ⟨respaced, (splitFragments_of_respaced respaced).2⟩

end Postal
