import Postal.Fragment.Extraction
import Postal.Proofs.Country.Detection
import Postal.Proofs.Pattern.LetterCase

namespace Postal

open Unicode

theorem collapse_map {test : Char → Bool} {mark : Char} {f : Char → Char}
    (same : ∀ c, test (f c) = test c) (fixed : f mark = mark) (text : List Char) :
    collapse test mark (text.map f) = (collapse test mark text).map f := by
  unfold collapse
  generalize false = inRun
  induction text generalizing inRun with
  | nil => rfl
  | cons c rest ih =>
    simp only [List.map_cons, collapseAfter, same]
    split
    · split <;> simp [ih, fixed]
    · simp [ih]

@[simp] theorem trimStart_lowered (text : List Char) :
    trimStart (text.map Char.toLower) = (trimStart text).map Char.toLower := by
  have same : isWhitespace ∘ Char.toLower = isWhitespace := funext isWhitespace_toLower
  rw [trimStart, List.dropWhile_map, same, trimStart]

@[simp] theorem trimEnd_lowered (text : List Char) :
    trimEnd (text.map Char.toLower) = (trimEnd text).map Char.toLower := by
  have reversed := trimStart_lowered text.reverse
  rw [trimEnd, ← List.map_reverse, ← trimStart, reversed, ← List.map_reverse]
  rfl

@[simp] theorem trim_lowered (text : List Char) :
    trim (text.map Char.toLower) = (trim text).map Char.toLower := by
  simp only [trim, trimStart_lowered, trimEnd_lowered]

theorem removeEmpty_lowered (fragments : List (List Char)) :
    removeEmpty (fragments.map (List.map Char.toLower)) =
      (removeEmpty fragments).map (List.map Char.toLower) := by
  simp only [removeEmpty, List.map_map, List.filter_map, Function.comp_def, trim_lowered,
    List.isEmpty_map]

theorem splitFragments_lowered (text : List Char) :
    splitFragments (text.map Char.toLower) =
      (splitFragments text).map (List.map Char.toLower) := by
  have separator (c : Char) : isFragmentSeparator c.toLower = isFragmentSeparator c :=
    apply_toLower isFragmentSeparator (forall_capitals (by decide)) c
  have space (c : Char) : isInnerSpace c.toLower = isInnerSpace c :=
    apply_toLower isInnerSpace (forall_capitals (by decide)) c
  rw [splitFragments, collapse_map space rfl, trim_lowered, splitWhere_map separator,
    removeEmpty_lowered, splitFragments]

theorem detectScript_lowered (fragments : List (List Char)) :
    detectScript (fragments.map (List.map Char.toLower)) = detectScript fragments := by
  simp only [detectScript, ← List.map_flatten, List.countP_map, Function.comp_def,
    isAsianCharacter_toLower, isOtherLetter_toLower]

theorem startsWith?_lowered (text name : List Char) :
    startsWith? (text.map Char.toLower) name =
      (startsWith? text name).map (List.map Char.toLower) := by
  induction text, name using startsWith?.induct with
  | case1 => simp [startsWith?]
  | case2 => simp [startsWith?]
  | case3 c text d name equal ih => simp [startsWith?, equal, ih]
  | case4 c text d name other => simp [startsWith?, other]

theorem endsWith?_lowered (text name : List Char) :
    endsWith? (text.map Char.toLower) name =
      (endsWith? text name).map (List.map Char.toLower) := by
  rw [endsWith?, ← List.map_reverse, startsWith?_lowered, endsWith?]
  simp [Option.map_map, Function.comp_def]

theorem leading?_lowered (fragment name : List Char) :
    leading? (fragment.map Char.toLower) name =
      (leading? fragment name).map (List.map Char.toLower) := by
  have same (text : List Char) : continuesWord (text.map Char.toLower) = continuesWord text := by
    cases text <;> simp [continuesWord]
  rw [leading?, startsWith?_lowered, leading?]
  cases startsWith? fragment name <;> simp [Option.filter, same, apply_ite]

theorem trailing?_lowered (fragment name : List Char) :
    trailing? (fragment.map Char.toLower) name =
      (trailing? fragment name).map (List.map Char.toLower) := by
  have same (text : List Char) : endsBlank (text.map Char.toLower) = endsBlank text := by
    rw [endsBlank, List.getLast?_map, endsBlank]
    cases text.getLast? <;> simp
  rw [trailing?, endsWith?_lowered, trailing?]
  cases endsWith? fragment name <;> simp [Option.filter, same, apply_ite]

theorem sightingOf?_lowered (fragments : List (List Char)) (entry : NamedCode) :
    sightingOf? (fragments.map (List.map Char.toLower)) entry = sightingOf? fragments entry := by
  rw [sightingOf?, List.head?_map, List.getLast?_map, List.length_map, sightingOf?]
  cases fragments.head? with
  | none => rfl
  | some first =>
    cases fragments.getLast? with
    | none => rfl
    | some last =>
      simp only [Option.map_some, leading?_lowered, trailing?_lowered]
      cases leading? first entry.name.toList with
      | some after => rfl
      | none => simp [Option.map_map, Function.comp_def]

theorem findCountry_lowered (fragments : List (List Char)) (tables : List NameTable) :
    findCountry (fragments.map (List.map Char.toLower)) tables = findCountry fragments tables := by
  have same := funext (sightingOf?_lowered fragments)
  simp only [findCountry, NameTable.findIn?, same]

namespace Sighting

variable (sighting : Sighting) (fragments : List (List Char))

theorem text_lowered : sighting.text (fragments.map (List.map Char.toLower)) =
    (sighting.text fragments).map Char.toLower := by
  rw [text, text, List.getElem?_map]
  cases fragments[sighting.line]? <;> simp [List.map_take, List.map_drop]

theorem cut_lowered : sighting.cut (fragments.map (List.map Char.toLower)) =
    (sighting.cut fragments).map (List.map Char.toLower) := by
  have same (fragment : List Char) : sighting.cutFrom (fragment.map Char.toLower) =
      (sighting.cutFrom fragment).map Char.toLower := by
    simp [cutFrom, List.map_take, List.map_drop]
  unfold cut
  refine List.ext_getElem? fun index => ?_
  simp only [List.getElem?_modify, List.getElem?_map]
  cases fragments[index]? with
  | none => rfl
  | some fragment =>
    change some (ite _ _ _) = some (List.map _ (ite _ _ _))
    rw [same, apply_ite (List.map Char.toLower)]

end Sighting

def Extract.lowered (extract : Extract) : Extract :=
  ⟨extract.value.map Char.toLower, extract.rest.map Char.toLower⟩

theorem dropHyphen_eq (text : List Char) :
    dropHyphen text = if text.head? == some '-' then text.tail else text := by
  unfold dropHyphen
  split
  · rfl
  · rename_i other
    cases text with
    | nil => rfl
    | cons c rest => exact (if_neg fun same => other rest (by simpa using same)).symm

theorem cleanExtract_lowered (value : List Char) :
    cleanExtract (value.map Char.toLower) = (cleanExtract value).map Char.toLower := by
  have hyphen (c : Char) : (c.toLower == '-') = (c == '-') :=
    toLower_beq (forall_capitals (by decide)) c
  have first (text : List Char) :
      dropHyphen (text.map Char.toLower) = (dropHyphen text).map Char.toLower := by
    rw [dropHyphen_eq, dropHyphen_eq, List.head?_map, lowered_beq (forall_capitals (by decide)),
      apply_ite (List.map _), List.map_tail]
  have last (text : List Char) :
      trimHyphens (text.map Char.toLower) = (trimHyphens text).map Char.toLower := by
    rw [trimHyphens, ← List.map_reverse, List.dropWhile_map, ← List.map_reverse]
    simp only [Function.comp_def, hyphen]
    rfl
  rw [cleanExtract, trim_lowered, first, last, trimEnd_lowered, cleanExtract]

theorem joinRest_lowered (script : Script) (before after : List Char) :
    joinRest script (before.map Char.toLower) (after.map Char.toLower) =
      (joinRest script before after).map Char.toLower := by
  have joined (text : List Char) : trim (collapse isWhitespace ' ' (text.map Char.toLower)) =
      (trim (collapse isWhitespace ' ' text)).map Char.toLower := by
    rw [collapse_map isWhitespace_toLower rfl, trim_lowered]
  cases script with
  | latin =>
    have spaced := joined (before ++ ' ' :: after)
    rwa [List.map_append, List.map_cons] at spaced
  | asian =>
    have spaced := joined (before ++ after)
    rwa [List.map_append] at spaced

theorem Pattern.extract?_lowered {pattern : Pattern} (blind : pattern.node.Blind) (group : Nat)
    (side : Side) (script : Script) (fragment : List Char) :
    pattern.extract? group side script (fragment.map Char.toLower) =
      (pattern.extract? group side script fragment).map Extract.lowered := by
  have found : pattern.findFrom? side (fragment.map Char.toLower) =
      pattern.findFrom? side fragment := by
    cases side with
    | start => exact Node.find?_lowered blind fragment
    | finish => exact congrArg List.getLast? (Node.allMatches_lowered blind fragment)
  unfold extract?
  rw [found]
  split
  · rfl
  · rename_i span located
    have value : span.within (fragment.map Char.toLower) =
        (span.within fragment).map Char.toLower := by
      simp [Span.within, List.map_take, List.map_drop]
    simp only [value, cleanExtract_lowered, List.isEmpty_map, ← List.map_take, ← List.map_drop,
      joinRest_lowered]
    split <;> rfl

theorem extractLiteral?_lowered (side : Side) (fragment literal : List Char) :
    extractLiteral? side (fragment.map Char.toLower) literal =
      (extractLiteral? side fragment literal).map Extract.lowered := by
  cases side with
  | start =>
    simp only [extractLiteral?, startsWith?_lowered, Option.map_map, ← List.map_take]
    cases startsWith? fragment literal <;> simp [Extract.lowered]
  | finish =>
    simp only [extractLiteral?, trailing?_lowered, Option.map_map]
    cases trailing? fragment literal <;> simp [Extract.lowered, List.map_drop]

def Matcher.Blind : Matcher → Prop
  | pattern compiled => compiled.node.Blind
  | literals _ => True

theorem Matcher.extract?_lowered {matcher : Matcher} (blind : matcher.Blind) (group : Nat)
    (side : Side) (script : Script) (fragment : List Char) :
    matcher.extract? group side script (fragment.map Char.toLower) =
      (matcher.extract? group side script fragment).map Extract.lowered := by
  cases matcher with
  | pattern pattern => exact pattern.extract?_lowered blind group side script fragment
  | literals items =>
    simp only [Matcher.extract?, extractLiteral?_lowered, List.map_findSome?, Function.comp_def]

end Postal
