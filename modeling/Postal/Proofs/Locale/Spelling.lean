import Mathlib.Logic.Relation
import Postal.Proofs.Locale.Tag

namespace Postal.Locale

theorem titlecase_toLower (part : List Char) :
    titlecase (part.map Char.toLower) = titlecase part := by
  cases part <;> simp [titlecase, Function.comp_def]

theorem isLanguagePart_toLower (isFirst : Bool) (part : List Char) :
    isLanguagePart false isFirst (part.map Char.toLower) = isLanguagePart false isFirst part := by
  simp [isLanguagePart, List.all_map, Function.comp_def]

theorem addPart_toLower (isFirst : Bool) (locale : Locale) (part : List Char) :
    locale.addPart false isFirst (part.map Char.toLower) = locale.addPart false isFirst part := by
  by_cases digits : part.all Char.isDigit = true
  · have same : part.map Char.toLower = part :=
      map_eq_self fun c mem => toLower_of_isDigit (List.all_eq_true.mp digits c mem)
    rw [same]
  · have letters : (part.map Char.toLower).all Char.isAlpha = part.all Char.isAlpha := by
      simp [List.all_map, Function.comp_def]
    have marked : (part.map Char.toLower).all Char.isDigit = part.all Char.isDigit := by
      simp [List.all_map, Function.comp_def]
    simp only [addPart, isLanguagePart_toLower, letters, marked, titlecase_toLower, List.length_map,
      List.map_map, Function.comp_def, toLower_toLower, toUpper_toLower, digits, Bool.and_false,
      Bool.false_and, Bool.false_eq_true, if_false]

theorem ofParts_toLower {parts : List (List Char)} (several : 2 ≤ parts.length) :
    ofParts (parts.map (List.map Char.toLower)) = ofParts parts := by
  match parts, several with
  | first :: second :: others, _ =>
    simp only [List.map_cons, ofParts, List.isEmpty_cons, List.foldl_cons, List.foldl_map,
      addPart_toLower]

def separates (c : Char) : Bool :=
  c == '-' || c == '_'

theorem tagParts_eq (tag : List Char) :
    tagParts tag = (splitWhere separates tag).filter (! ·.isEmpty) :=
  rfl

theorem tagParts_append {c : Char} (mark : separates c = true) (before after : List Char) :
    tagParts (before ++ c :: after) = tagParts before ++ tagParts after := by
  rw [tagParts_eq, splitWhere_append_separator mark, List.filter_append, ← tagParts_eq,
    ← tagParts_eq]

theorem tagParts_cons {c : Char} (mark : separates c = true) (tag : List Char) :
    tagParts (c :: tag) = tagParts tag :=
  tagParts_append mark [] tag

theorem tagParts_concat {c : Char} (mark : separates c = true) (tag : List Char) :
    tagParts (tag ++ [c]) = tagParts tag :=
  (tagParts_append mark tag []).trans (List.append_nil _)

theorem separates_toLower (c : Char) : separates c.toLower = separates c := by
  rw [separates, toLower_beq (forall_capitals (by decide)), toLower_beq (forall_capitals (by decide)),
    separates]

theorem tagParts_toLower (tag : List Char) :
    tagParts (tag.map Char.toLower) = (tagParts tag).map (List.map Char.toLower) := by
  rw [tagParts_eq, splitWhere_map separates_toLower, List.filter_map, tagParts_eq]
  congr 2
  funext part
  simp

/-- One change of the spelling of a tag. A letter may be written in the other case; a separator may
be exchanged, doubled, or added at an end. -/
inductive Respelling : List Char → List Char → Prop
  | recase {old new : Char} (before after : List Char) (same : old.toLower = new.toLower) :
      Respelling (before ++ old :: after) (before ++ new :: after)
  | exchange {old new : Char} (before after : List Char) (mark : separates old = true)
      (mark' : separates new = true) : Respelling (before ++ old :: after) (before ++ new :: after)
  | double {c : Char} (before after : List Char) (mark : separates c = true) :
      Respelling (before ++ c :: after) (before ++ c :: c :: after)
  | separatorFirst {c : Char} (tag : List Char) (mark : separates c = true) :
      Respelling tag (c :: tag)
  | separatorLast {c : Char} (tag : List Char) (mark : separates c = true) :
      Respelling tag (tag ++ [c])

theorem Respelling.lowered {tag other : List Char} (h : Respelling tag other) :
    tagParts (tag.map Char.toLower) = tagParts (other.map Char.toLower) := by
  cases h with
  | recase before after same => simp only [List.map_append, List.map_cons, same]
  | exchange before after mark mark' =>
    rw [tagParts_toLower, tagParts_append mark, tagParts_toLower, tagParts_append mark']
  | double before after mark =>
    rw [tagParts_toLower, tagParts_append mark, tagParts_toLower, tagParts_append mark,
      tagParts_cons mark]
  | separatorFirst _ mark => rw [tagParts_toLower, tagParts_toLower, tagParts_cons mark]
  | separatorLast _ mark => rw [tagParts_toLower, tagParts_toLower, tagParts_concat mark]

theorem respelled_of_toLower_eq {tag other : List Char}
    (same : tag.map Char.toLower = other.map Char.toLower) (before : List Char) :
    Relation.EqvGen Respelling (before ++ tag) (before ++ other) := by
  induction tag generalizing other before with
  | nil =>
    obtain rfl : other = [] := List.map_eq_nil_iff.mp same.symm
    exact .refl _
  | cons old tag ih =>
    obtain ⟨new, rest, rfl, here, later⟩ := List.map_eq_cons_iff.mp same.symm
    have changed : Respelling (before ++ old :: tag) (before ++ new :: tag) :=
      .recase before tag here.symm
    have others := ih later.symm (before ++ [new])
    rw [List.append_assoc, List.append_assoc] at others
    exact .trans _ _ _ (.rel _ _ changed) others

theorem lowered_of_respelled {tag other : List Char}
    (respelled : Relation.EqvGen Respelling tag other) :
    tagParts (tag.map Char.toLower) = tagParts (other.map Char.toLower) := by
  induction respelled with
  | rel tag other change => exact change.lowered
  | refl tag => rfl
  | symm tag other _ ih => exact ih.symm
  | trans first second third _ _ ih ih' => exact ih.trans ih'

/-- Any number of such changes, made or taken back, leaves the locale of a tag of several parts as it
is, whatever the parts look like. So its spec is the same, and its data are looked up in the same
places. -/
theorem ofTag_of_respelled {tag other : String}
    (respelled : Relation.EqvGen Respelling tag.toList other.toList)
    (several : 2 ≤ (tagParts tag.toList).length) :
    ofTag other = ofTag tag ∧ (ofTag other).spec = (ofTag tag).spec ∧
      (ofTag other).chain = (ofTag tag).chain := by
  have lowered := lowered_of_respelled respelled
  rw [tagParts_toLower, tagParts_toLower] at lowered
  have several' : 2 ≤ (tagParts other.toList).length := by
    have lengths := congrArg List.length lowered
    rw [List.length_map, List.length_map] at lengths
    omega
  have same : ofTag other = ofTag tag := by
    rw [ofTag, ← ofParts_toLower several', ← lowered, ofParts_toLower several, ofTag]
  exact ⟨same, congrArg spec same, congrArg chain same⟩

theorem ofTag_of_austrian_respelled :
    let tag := "de-x1-AT_ch"
    let other := "_DE_X1--at-CH-"
    Relation.EqvGen Respelling tag.toList other.toList ∧ 2 ≤ (tagParts tag.toList).length ∧
      ofTag other = ofTag tag ∧ ofTag tag = ⟨some "de", none, some "AT"⟩ := by
  intro tag other
  have recased : Relation.EqvGen Respelling tag.toList "DE-X1-at_CH".toList :=
    respelled_of_toLower_eq (by decide) []
  have exchanged : Respelling "DE-X1-at_CH".toList "DE_X1-at_CH".toList :=
    .exchange ['D', 'E'] ['X', '1', '-', 'a', 't', '_', 'C', 'H'] rfl rfl
  have exchanged' : Respelling "DE_X1-at_CH".toList "DE_X1-at-CH".toList :=
    .exchange ['D', 'E', '_', 'X', '1', '-', 'a', 't'] ['C', 'H'] rfl rfl
  have doubled : Respelling "DE_X1-at-CH".toList "DE_X1--at-CH".toList :=
    .double ['D', 'E', '_', 'X', '1'] ['a', 't', '-', 'C', 'H'] rfl
  have begun : Respelling "DE_X1--at-CH".toList "_DE_X1--at-CH".toList := .separatorFirst _ rfl
  have ended : Respelling "_DE_X1--at-CH".toList "_DE_X1--at-CH-".toList :=
    .separatorLast ['_', 'D', 'E', '_', 'X', '1', '-', '-', 'a', 't', '-', 'C', 'H'] rfl
  have respelled : Relation.EqvGen Respelling tag.toList other.toList :=
    .trans _ _ _ recased (.trans _ _ _ (.rel _ _ exchanged) (.trans _ _ _ (.rel _ _ exchanged')
      (.trans _ _ _ (.rel _ _ doubled) (.trans _ _ _ (.rel _ _ begun) (.rel _ _ ended)))))
  have several : 2 ≤ (tagParts tag.toList).length := by decide
  exact ⟨respelled, several, (ofTag_of_respelled respelled several).1, by decide⟩

example : ofTag "de" = ⟨some "de", none, none⟩ ∧ ofTag "DE" = ⟨none, none, some "DE"⟩ := by
  decide

end Postal.Locale
