import Mathlib.Data.List.DropRight
import Postal.Proofs.Fragment.SingleRule
import Postal.Proofs.Ruleset.CodeFirst

namespace Postal

open Unicode

theorem rdropWhile_eq_iff (edge : Char → Bool) (text kept : List Char) :
    text.rdropWhile edge = kept ↔
      (∃ run, text = kept ++ run ∧ ∀ c ∈ run, edge c = true) ∧
        ∀ c ∈ kept.getLast?, edge c = false := by
  constructor
  · rintro rfl
    refine ⟨⟨text.rtakeWhile edge, List.rdropWhile_append_rtakeWhile.symm,
      fun c mem => List.mem_rtakeWhile_imp mem⟩, fun c last => ?_⟩
    rw [List.rdropWhile, List.getLast?_reverse] at last
    exact head?_dropWhile_not edge text.reverse c last
  · rintro ⟨⟨run, rfl, dropped⟩, last⟩
    have before : ∀ c ∈ run.reverse, edge c = true := fun c mem => dropped c (List.mem_reverse.mp mem)
    rw [List.rdropWhile, List.reverse_append, List.dropWhile_append_of_pos before]
    exact dropWhile_reverse_eq_self last

theorem trimEnd_eq_iff {text kept : List Char} :
    trimEnd text = kept ↔
      (∃ blanks, text = kept ++ blanks ∧ ∀ c ∈ blanks, isWhitespace c = true) ∧
        ∀ c ∈ kept.getLast?, isWhitespace c = false :=
  rdropWhile_eq_iff isWhitespace text kept

theorem trimHyphens_eq_iff {text kept : List Char} :
    trimHyphens text = kept ↔
      (∃ hyphens, text = kept ++ hyphens ∧ ∀ c ∈ hyphens, c = '-') ∧ kept.getLast? ≠ some '-' := by
  have dropped := rdropWhile_eq_iff (· == '-') text kept
  simp only [beq_iff_eq, beq_eq_false_iff_ne] at dropped
  refine dropped.trans (and_congr_right fun _ => ?_)
  exact ⟨fun last same => last '-' same rfl, fun last c here same => last (same ▸ here)⟩

theorem exists_last_blank {run : List Char} (filled : run ≠ [])
    (blank : ∀ c ∈ run, isWhitespace c = true) (others : List Char) :
    ∃ c, (others ++ run).getLast? = some c ∧ isWhitespace c = true := by
  refine ⟨run.getLast filled, ?_, blank _ (List.getLast_mem filled)⟩
  rw [List.getLast?_append_of_ne_nil _ filled, List.getLast?_eq_some_getLast filled]

theorem eq_nil_of_last_visible {others run : List Char}
    (last : ∀ c ∈ (others ++ run).getLast?, isWhitespace c = false)
    (blank : ∀ c ∈ run, isWhitespace c = true) : run = [] := by
  by_contra filled
  obtain ⟨c, here, isBlank⟩ := exists_last_blank filled blank others
  rw [last c here] at isBlank
  cases isBlank

theorem eq_nil_of_first_visible {run others : List Char}
    (first : ∀ c ∈ (run ++ others).head?, isWhitespace c = false)
    (blank : ∀ c ∈ run, isWhitespace c = true) : run = [] := by
  cases run with
  | nil => rfl
  | cons c run =>
    have visible := first c rfl
    rw [blank c List.mem_cons_self] at visible
    cases visible

theorem trimEnd_trimHyphens {kept blanks hyphens : List Char}
    (blank : ∀ c ∈ blanks, isWhitespace c = true) (hyphen : ∀ c ∈ hyphens, c = '-')
    (last : ∀ c ∈ kept.getLast?, isWhitespace c = false)
    (longest : blanks = [] → kept.getLast? ≠ some '-') :
    trimEnd (trimHyphens (kept ++ (blanks ++ hyphens))) = kept := by
  have noHyphen : (kept ++ blanks).getLast? ≠ some '-' := by
    by_cases none : blanks = []
    · rw [none, List.append_nil]
      exact longest none
    · obtain ⟨c, here, isBlank⟩ := exists_last_blank none blank kept
      rw [here]
      rintro ⟨⟩
      revert isBlank
      decide
  have first : trimHyphens (kept ++ (blanks ++ hyphens)) = kept ++ blanks :=
    trimHyphens_eq_iff.mpr ⟨⟨hyphens, (List.append_assoc ..).symm, hyphen⟩, noHyphen⟩
  rw [first]
  exact trimEnd_eq_iff.mpr ⟨⟨blanks, rfl, blank⟩, last⟩

theorem exists_append_trim {text : List Char} (last : ∀ c ∈ text.getLast?, isWhitespace c = false) :
    ∃ blanks, text = blanks ++ trim text ∧ ∀ c ∈ blanks, isWhitespace c = true := by
  have whole : text.takeWhile isWhitespace ++ trimStart text = text := List.takeWhile_append_dropWhile
  have kept : trimEnd (trimStart text) = trimStart text := by
    refine dropWhile_reverse_eq_self fun c here => last c ?_
    rw [← whole, List.getLast?_append, here]
    rfl
  refine ⟨text.takeWhile isWhitespace, ?_, fun c mem => List.mem_takeWhile_imp mem⟩
  rw [trim, kept, whole]

theorem dropHyphen_cases (text : List Char) :
    dropHyphen text = text ∧ text.head? ≠ some '-' ∨ text = '-' :: dropHyphen text := by
  unfold dropHyphen
  split
  · exact .inr rfl
  · rename_i other
    refine .inl ⟨rfl, fun first => ?_⟩
    obtain ⟨rest, rfl⟩ := List.head?_eq_some_iff.mp first
    exact other rest rfl

def HyphensApart (text : List Char) : Prop :=
  ∃ before blanks hyphens, text = before ++ '-' :: (blanks ++ hyphens) ∧ blanks ≠ [] ∧ hyphens ≠ [] ∧
    (∀ c ∈ blanks, isWhitespace c = true) ∧ ∀ c ∈ hyphens, c = '-'

/-- What a text has around a value: in front of it one hyphen and the white space after that, or
nothing if the value starts with no hyphen; behind it the hyphens that end the text, and the white
space before those. -/
structure Surrounds (text front value blanks hyphens : List Char) : Prop where
  whole : text = front ++ (value ++ (blanks ++ hyphens))
  first : front = [] ∧ value.head? ≠ some '-' ∨
    ∃ gap, front = '-' :: gap ∧ ∀ c ∈ gap, isWhitespace c = true
  blank : ∀ c ∈ blanks, isWhitespace c = true
  hyphen : ∀ c ∈ hyphens, c = '-'
  longest : blanks = [] → value.getLast? ≠ some '-'
  joined : hyphens = [] → blanks = []

/-- A value without white space at its ends, freed of what joined it to its neighbours. -/
structure FreedFrom (value text : List Char) : Prop where
  firm : Firm value
  surrounded : ∃ front blanks hyphens, Surrounds text front value blanks hyphens

theorem exists_around_value (text : List Char) :
    ∃ gap blanks hyphens, text = gap ++ (trim (trimEnd (trimHyphens text)) ++ (blanks ++ hyphens)) ∧
      (∀ c ∈ gap, isWhitespace c = true) ∧ (∀ c ∈ blanks, isWhitespace c = true) ∧
      (∀ c ∈ hyphens, c = '-') ∧
      (blanks = [] → (trim (trimEnd (trimHyphens text))).getLast? ≠ some '-') := by
  obtain ⟨⟨hyphens, ended, hyphen⟩, noHyphen⟩ := trimHyphens_eq_iff.mp (rfl : trimHyphens text = _)
  obtain ⟨⟨blanks, spaced, blank⟩, noBlank⟩ :=
    trimEnd_eq_iff.mp (rfl : trimEnd (trimHyphens text) = _)
  obtain ⟨gap, begun, isGap⟩ := exists_append_trim noBlank
  refine ⟨gap, blanks, hyphens, ?_, isGap, blank, hyphen, fun none last => noHyphen ?_⟩
  · calc text = trimHyphens text ++ hyphens := ended
      _ = trimEnd (trimHyphens text) ++ (blanks ++ hyphens) := by
        rw [← List.append_assoc, ← spaced]
      _ = gap ++ trim (trimEnd (trimHyphens text)) ++ (blanks ++ hyphens) := by rw [← begun]
      _ = _ := List.append_assoc ..
  · rw [spaced, none, List.append_nil, begun, List.getLast?_append, last]
    rfl

theorem freedFrom_cleanExtract {text : List Char} (filled : trim (cleanExtract text) ≠ []) :
    FreedFrom (trim (cleanExtract text)) (trim text) := by
  obtain ⟨gap, blanks, hyphens, parts, isGap, blank, hyphen, longest⟩ :=
    exists_around_value (dropHyphen (trim text))
  change dropHyphen (trim text) = gap ++ (trim (cleanExtract text) ++ (blanks ++ hyphens)) at parts
  have joined : ∀ front, trim text = front ++ (trim (cleanExtract text) ++ (blanks ++ hyphens)) →
      hyphens = [] → blanks = [] := by
    intro front whole none
    have last := getLast?_trim text
    rw [whole, none, List.append_nil, ← List.append_assoc] at last
    exact eq_nil_of_last_visible last blank
  refine ⟨⟨filled, head?_trim _, getLast?_trim _⟩, ?_⟩
  rcases dropHyphen_cases (trim text) with ⟨same, notFirst⟩ | first
  · -- Without a hyphen to uncover it there is no white space before the value either.
    have visible := head?_trim text
    rw [same] at parts
    rw [parts] at visible
    rw [eq_nil_of_first_visible visible isGap] at parts
    refine ⟨[], blanks, hyphens, parts, .inl ⟨rfl, fun first => notFirst ?_⟩, blank, hyphen, longest,
      joined [] parts⟩
    rw [parts, List.nil_append, List.head?_append, first]
    rfl
  · rw [parts] at first
    exact ⟨'-' :: gap, blanks, hyphens, first, .inr ⟨gap, rfl, isGap⟩, blank, hyphen, longest,
      joined ('-' :: gap) first⟩

theorem FreedFrom.getLast?_eq_hyphen_iff {value text : List Char} (freed : FreedFrom value text) :
    value.getLast? = some '-' ↔ HyphensApart text := by
  obtain ⟨firm, front, blanks, hyphens, parts⟩ := freed
  constructor
  · intro last
    obtain ⟨others, rfl⟩ := List.getLast?_eq_some_iff.mp last
    have apart : blanks ≠ [] := fun none => parts.longest none last
    refine ⟨front ++ others, blanks, hyphens, ?_, apart, fun none => apart (parts.joined none),
      parts.blank, parts.hyphen⟩
    simp [parts.whole]
  · rintro ⟨before, blanks', hyphens', whole, apart, -, blank', hyphen'⟩
    have lastOf : ∀ before : List Char, (before ++ value).getLast? = value.getLast? :=
      fun before => List.getLast?_append_of_ne_nil before firm.filled
    -- Both ways to take the text apart leave the same once the passes at its end are done.
    have taken : trimEnd (trimHyphens text) = front ++ value := by
      rw [parts.whole, ← List.append_assoc]
      apply trimEnd_trimHyphens parts.blank parts.hyphen <;> rw [lastOf]
      · exact firm.last
      · exact parts.longest
    have given : trimEnd (trimHyphens text) = before ++ ['-'] := by
      have split : text = before ++ ['-'] ++ (blanks' ++ hyphens') := by simp [whole]
      have visible : ∀ c ∈ (before ++ ['-']).getLast?, isWhitespace c = false := by
        rw [List.getLast?_concat]
        rintro c ⟨⟩
        decide
      rw [split]
      exact trimEnd_trimHyphens blank' hyphen' visible fun none => absurd none apart
    rw [← lastOf front, ← taken, given, List.getLast?_concat]

namespace Worksheet

theorem applyAll_get_of_hit? {side : Side} {script : Script} {sheet : Worksheet}
    {earlier later : List Rule} {rule : Rule} {matcher : Matcher}
    (given : rule.matcher = some matcher) {index : Nat} {extract : Extract}
    (hit : rule.hit? matcher side script (applyAll side script sheet earlier).fragments =
      some (index, extract))
    (other : ∀ next ∈ later, next.component ≠ rule.component) :
    (applyAll side script sheet (earlier ++ rule :: later)).address.get rule.component =
      cleanValue (some (String.ofList extract.value)) := by
  have tidy := tidy_applyAll side script sheet earlier
  obtain ⟨fragment, located, -⟩ := Rule.extract_of_hit? hit
  have filled : (applyAll side script sheet earlier).tidy.fragments ≠ [] := by
    rw [tidy]
    exact List.ne_nil_of_mem (List.mem_of_getElem? located)
  rw [applyAll_append_eq, applyAll_cons filled, applyAll_get other, tidy, apply_get_of_hit? given hit]

/-- What a rule with a pattern finds, wherever it stands among others, is in its component in the
end: not empty, without white space at its ends, and freed of hyphens. A hyphen stays at its end just
if white space stands between the hyphens at the end of the text that was found. -/
theorem applyAll_get_of_pattern (side : Side) (script : Script) (sheet : Worksheet)
    (earlier later : List Rule) (rule : Rule) {pattern : Pattern}
    (given : rule.matcher = some (.pattern pattern)) {index : Nat} {extract : Extract}
    (hit : rule.hit? (.pattern pattern) side script (applyAll side script sheet earlier).fragments =
      some (index, extract))
    (other : ∀ next ∈ later, next.component ≠ rule.component) :
    ∃ fragment span value,
      (applyAll side script sheet earlier).fragments[index]? = some fragment ∧
      (pattern.findFrom? side fragment).bind (·.group? rule.group) = some span ∧
      (applyAll side script sheet (earlier ++ rule :: later)).address.get rule.component =
        some value ∧
      FreedFrom value.toList (trim (span.within fragment)) ∧
      (value.toList.getLast? = some '-' ↔ HyphensApart (trim (span.within fragment))) := by
  obtain ⟨fragment, located, found⟩ := Rule.extract_of_hit? hit
  have filled : trim extract.value ≠ [] := trim_ne_nil (Pattern.exists_visible_of_extract? found)
  obtain ⟨span, matched, -, rfl⟩ := Pattern.extract?_eq_some_iff.mp found
  have kept := applyAll_get_of_hit? given hit other
  rw [cleanValue_of_filled filled] at kept
  have freed := freedFrom_cleanExtract filled
  refine ⟨fragment, span, _, located, matched, kept, ?_⟩
  rw [String.toList_ofList]
  exact ⟨freed, freed.getLast?_eq_hyphen_iff⟩

theorem applyAll_get_of_pattern_vienna :
    let sheet : Worksheet := ⟨["Graben 1".toList, "1010-WIEN".toList], {}⟩
    let earlier := [codeRule "\\b[0-9]\x7b4\x7d\\b" 4]
    let later : List Rule := [⟨.region, .first, none, 0⟩]
    nameRule.hit? (.pattern ⟨"[^\\d,]+$", .lineTail .nameCharacter⟩) .finish .latin
        (applyAll .finish .latin sheet earlier).fragments = some (1, ⟨"WIEN".toList, []⟩) ∧
      (∀ next ∈ later, next.component ≠ nameRule.component) ∧
      (applyAll .finish .latin sheet (earlier ++ nameRule :: later)).address.get .locality =
        some "WIEN" ∧
      FreedFrom "WIEN".toList "-WIEN".toList ∧ ¬ HyphensApart "-WIEN".toList := by
  intro sheet earlier later
  have left : (applyAll .finish .latin sheet earlier).fragments =
      ["Graben 1".toList, "-WIEN".toList] := by decide +kernel
  have hit : nameRule.hit? (.pattern ⟨"[^\\d,]+$", .lineTail .nameCharacter⟩) .finish .latin
      (applyAll .finish .latin sheet earlier).fragments = some (1, ⟨"WIEN".toList, []⟩) := by
    rw [left]
    decide +kernel
  have other : ∀ next ∈ later, next.component ≠ nameRule.component := by decide
  obtain ⟨fragment, span, value, located, matched, kept, freed, ends⟩ :=
    applyAll_get_of_pattern .finish .latin sheet earlier later nameRule rfl hit other
  have all : (Pattern.findFrom? ⟨"[^\\d,]+$", .lineTail .nameCharacter⟩ .finish "-WIEN".toList).bind
      (·.group? 0) = some ⟨0, 5⟩ := by decide +kernel
  have stored : (applyAll .finish .latin sheet (earlier ++ nameRule :: later)).address.get
      .locality = some "WIEN" := by decide +kernel
  have whole : trim (Span.within ⟨0, 5⟩ "-WIEN".toList) = "-WIEN".toList := by decide +kernel
  rw [left] at located
  cases located
  cases all.symm.trans matched
  cases stored.symm.trans kept
  rw [whole] at freed ends
  exact ⟨hit, other, stored, freed, fun apart => absurd (ends.mpr apart) (by decide)⟩

theorem applyAll_get_hyphen_berlin :
    let sheet : Worksheet := ⟨["10115 Berlin- -".toList], {}⟩
    let earlier := [codeRule "\\b[0-9]\x7b5\x7d\\b" 5]
    nameRule.hit? (.pattern ⟨"[^\\d,]+$", .lineTail .nameCharacter⟩) .finish .latin
        (applyAll .finish .latin sheet earlier).fragments = some (0, ⟨"Berlin-".toList, []⟩) ∧
      (applyAll .finish .latin sheet (earlier ++ [nameRule])).address.get .locality =
        some "Berlin-" ∧
      "Berlin-".toList.getLast? = some '-' := by
  decide +kernel

end Worksheet

end Postal
