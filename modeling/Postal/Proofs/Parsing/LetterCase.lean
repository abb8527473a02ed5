import Mathlib.Data.List.InsertIdx
import Postal.Proofs.Parsing.CountryCode
import Postal.Proofs.Ruleset.LetterCase

namespace Postal

open Unicode

abbrev Alike (text other : String) : Prop :=
  equalIgnoringAsciiCase text other = true

theorem alike_iff {text other : String} :
    Alike text other ↔ text.toList.map Char.toLower = other.toList.map Char.toLower :=
  beq_iff_eq

theorem alike_ofList {text other : List Char} :
    Alike (String.ofList text) (String.ofList other) ↔
      text.map Char.toLower = other.map Char.toLower := by
  rw [alike_iff, String.toList_ofList, String.toList_ofList]

abbrev AlikeValues (value other : Option String) : Prop :=
  Option.Rel Alike value other

theorem AlikeValues.refl (value : Option String) : AlikeValues value value := by
  cases value with
  | none => exact .none
  | some text => exact .some (alike_iff.mpr rfl)

theorem AlikeValues.ofList {value other : Option (List Char)}
    (alike : value.map (List.map Char.toLower) = other.map (List.map Char.toLower)) :
    AlikeValues (value.map String.ofList) (other.map String.ofList) := by
  cases value <;> cases other <;> simp only [Option.map_none, Option.map_some] at alike ⊢
  · exact .none
  · cases alike
  · cases alike
  · exact .some (alike_ofList.mpr (Option.some.inj alike))

theorem Alike.isEmpty {text other : String} (alike : Alike text other) :
    text.isEmpty = other.isEmpty := by
  have letters := congrArg List.isEmpty (alike_iff.mp alike)
  rw [List.isEmpty_map, List.isEmpty_map] at letters
  rw [Bool.eq_iff_iff, String.isEmpty_iff, String.isEmpty_iff, ← String.toList_eq_nil_iff,
    ← String.toList_eq_nil_iff, ← List.isEmpty_iff, ← List.isEmpty_iff, letters]

theorem AlikeValues.clean {value other : Option String} (alike : AlikeValues value other) :
    AlikeValues (cleanValue value) (cleanValue other) := by
  cases alike with
  | none => exact .none
  | @some text other alike =>
    have trimmed : Alike (trimText text) (trimText other) := by
      rw [trimText, trimText, alike_ofList, ← trim_lowered, ← trim_lowered, alike_iff.mp alike]
    simp only [cleanValue, Option.map_some, Option.filter_some, trimmed.isEmpty]
    split
    · exact .some trimmed
    · exact .none

/-- Two addresses have the same components, whose values differ in letter case at most. -/
structure Address.SameButCase (first second : Address) : Prop where
  format : second.format = first.format
  get : ∀ component, AlikeValues (first.get component) (second.get component)

namespace Address.SameButCase

variable {first second : Address}

theorem refl (address : Address) : address.SameButCase address :=
  ⟨rfl, fun _ => .refl _⟩

theorem set (same : first.SameButCase second) (component : Component) {value other : Option String}
    (alike : AlikeValues value other) :
    (first.set component value).SameButCase (second.set component other) where
  format := by rw [format_set, format_set, same.format]
  get component' := by
    by_cases here : component' = component
    · rw [here, get_set_self, get_set_self]
      exact alike.clean
    · rw [get_set_of_ne _ _ here, get_set_of_ne _ _ here]
      exact same.get component'

end Address.SameButCase

theorem map_intercalate {α β : Type} (f : α → β) (separator : List α) (pieces : List (List α)) :
    (separator.intercalate pieces).map f = (separator.map f).intercalate (pieces.map (List.map f)) := by
  induction pieces with
  | nil => rfl
  | cons piece pieces ih =>
    cases pieces with
    | nil => simp
    | cons next pieces =>
      simp only [List.intercalate_cons_cons, List.map_cons, List.map_append] at ih ⊢
      rw [ih]

theorem Rule.hit?_lowered (rule : Rule) {matcher : Matcher} (blind : matcher.Blind) (side : Side)
    (script : Script) (fragments : List (List Char)) :
    rule.hit? matcher side script (fragments.map (List.map Char.toLower)) =
      (rule.hit? matcher side script fragments).map (Prod.map id Extract.lowered) := by
  simp only [hit?, List.length_map, List.map_findSome?, List.getElem?_map]
  refine congrArg (List.findSome? · _) (funext fun index => ?_)
  dsimp only [Function.comp]
  cases fragments[index]? with
  | none => rfl
  | some fragment =>
    simp [Matcher.extract?_lowered blind, Option.map_map, Function.comp_def, Prod.map]

namespace Worksheet

structure SameButCase (first second : Worksheet) : Prop where
  fragments : second.fragments.map (List.map Char.toLower) =
    first.fragments.map (List.map Char.toLower)
  address : first.address.SameButCase second.address

variable {first second : Worksheet}

theorem SameButCase.tidy (same : first.SameButCase second) :
    first.tidy.SameButCase second.tidy where
  fragments := by
    rw [Worksheet.tidy, Worksheet.tidy, ← removeEmpty_lowered, ← removeEmpty_lowered, same.fragments]
  address := same.address

theorem SameButCase.length (same : first.SameButCase second) :
    second.fragments.length = first.fragments.length := by
  simpa using congrArg List.length same.fragments

theorem SameButCase.takeWhole (same : first.SameButCase second) (rule : Rule) :
    (rule.takeWhole first).SameButCase (rule.takeWhole second) := by
  unfold Rule.takeWhole
  rw [same.length]
  refine ⟨?_, same.address.set _ (.ofList ?_)⟩
  · rw [← List.eraseIdx_map, ← List.eraseIdx_map, same.fragments]
  · rw [← List.getElem?_map, ← List.getElem?_map, same.fragments]

theorem SameButCase.apply (same : first.SameButCase second) (side : Side) (script : Script)
    {rule : Rule} (blind : ∀ matcher ∈ rule.matcher, matcher.Blind) :
    (first.apply side script rule).SameButCase (second.apply side script rule) := by
  unfold Worksheet.apply
  cases given : rule.matcher with
  | none => exact same.takeWhole rule
  | some matcher =>
    -- Both searches are the search of the lowered fragments.
    have hits := (rule.hit?_lowered (blind matcher given) side script second.fragments).symm
    rw [same.fragments, rule.hit?_lowered (blind matcher given)] at hits
    dsimp only
    cases first' : rule.hit? matcher side script first.fragments with
    | none =>
      rw [first', Option.map_none, Option.map_eq_none_iff] at hits
      rw [hits]
      exact same
    | some hit =>
      obtain ⟨index, extract⟩ := hit
      rw [first', Option.map_some, Option.map_eq_some_iff] at hits
      obtain ⟨⟨index', extract'⟩, second', lowered⟩ := hits
      obtain ⟨rfl, value, rest⟩ : index' = index ∧
          extract'.value.map Char.toLower = extract.value.map Char.toLower ∧
            extract'.rest.map Char.toLower = extract.rest.map Char.toLower := by
        simpa [Extract.lowered] using lowered
      rw [second']
      refine ⟨?_, same.address.set _ (.some (alike_ofList.mpr value.symm))⟩
      rw [List.map_set, List.map_set, same.fragments, rest]

theorem SameButCase.applyAll (same : first.SameButCase second) (side : Side) (script : Script)
    {rules : List Rule} (blind : ∀ rule ∈ rules, ∀ matcher ∈ rule.matcher, matcher.Blind) :
    (applyAll side script first rules).SameButCase (applyAll side script second rules) := by
  induction rules generalizing first second with
  | nil => exact same.tidy
  | cons rule rules ih =>
    obtain ⟨here, later⟩ := List.forall_mem_cons.mp blind
    have empty : second.tidy.fragments.isEmpty = first.tidy.fragments.isEmpty := by
      simpa using congrArg List.isEmpty same.tidy.fragments
    rw [Worksheet.applyAll, Worksheet.applyAll, empty]
    split
    · exact same.tidy
    · exact ih (same.tidy.apply side script here) later

end Worksheet

structure Prepared.SameButCase (first second : Prepared) : Prop where
  fragments : second.fragments.map (List.map Char.toLower) =
    first.fragments.map (List.map Char.toLower)
  country : AlikeValues first.country second.country
  countryCode : second.countryCode = first.countryCode

theorem prepare_sameButCase {text other : List Char}
    (alike : text.map Char.toLower = other.map Char.toLower) (tables : List NameTable)
    (locale : Locale) :
    (prepare text tables locale).SameButCase (prepare other tables locale) := by
  have fragments : (splitFragments other).map (List.map Char.toLower) =
      (splitFragments text).map (List.map Char.toLower) := by
    rw [← splitFragments_lowered, ← splitFragments_lowered, alike]
  have found : findCountry (splitFragments other) tables =
      findCountry (splitFragments text) tables := by
    rw [← findCountry_lowered, fragments, findCountry_lowered]
  rw [prepare, prepare, found]
  cases findCountry (splitFragments text) tables with
  | none => exact ⟨fragments, .none, rfl⟩
  | some sighting =>
    refine ⟨?_, .some (alike_ofList.mpr ?_), rfl⟩
    · simp only [← Sighting.cut_lowered, fragments]
    · rw [← Sighting.text_lowered, ← Sighting.text_lowered, fragments]

theorem Prepared.SameButCase.finish {first second : Prepared} (same : first.SameButCase second)
    {ruleset : Ruleset} (blind : ruleset.Blind) :
    (first.finish ruleset).SameButCase (second.finish ruleset) := by
  have script : second.script ruleset = first.script ruleset := by
    rw [Prepared.script, Prepared.script, ← detectScript_lowered second.fragments, same.fragments,
      detectScript_lowered]
  have start : (first.start (first.script ruleset)).SameButCase
      (second.start (second.script ruleset)) := by
    rw [Prepared.start, Prepared.start, script, same.countryCode]
    exact ((Address.SameButCase.refl _).set _ same.country).set _ (.refl _)
  have sheet : (first.worksheet ruleset).SameButCase (second.worksheet ruleset) := by
    rw [Prepared.worksheet, Prepared.worksheet, script]
    rw [script] at start
    exact Worksheet.SameButCase.applyAll ⟨same.fragments, start⟩ _ _ (blind _)
  have empty : (second.worksheet ruleset).fragments.isEmpty =
      (first.worksheet ruleset).fragments.isEmpty := by
    simpa using congrArg List.isEmpty sheet.fragments
  rw [Prepared.finish, Prepared.finish, empty, script]
  dsimp only
  split
  · exact sheet.address
  · refine sheet.address.set _ (.some (alike_ofList.mpr ?_))
    rw [map_intercalate, map_intercalate, sheet.fragments]

/-- With the built-in data, two texts that differ in the case of ASCII letters are parsed, in every
locale and in whatever state the store is, into addresses with the same code of the country, the
same format and the same components, whose values differ in the case of ASCII letters at most. -/
theorem parse_ignores_case {σ : Type} {source : Source (StateM σ)}
    (steady : source.Steady Builtin.load) (default locale : Locale) {text other : String}
    (alike : equalIgnoringAsciiCase text other = true) :
    ∃ address address',
      (∀ store, (Store.fresh default).Reaches source store →
        (parse locale (.text text)).Gives source store address ∧
          (parse locale (.text other)).Gives source store address') ∧
      address'.countryCode = address.countryCode ∧ address.SameButCase address' := by
  refine ⟨_, _, fun store used =>
    ⟨Program.gives_of_reaches steady used (parse_honest locale (.text text)).faithful,
      Program.gives_of_reaches steady used (parse_honest locale (.text other)).faithful⟩, ?_⟩
  have prepared := prepare_sameButCase (alike_iff.mp alike)
    ((countryTables locale).eval (View.ofAnswers Builtin.load)) locale
  have blind := Builtin.rules_forCode Ruleset.blind_generic fun _ _ => Builtin.blind_of_load
  rw [eval_parse_text, eval_parse_text, prepared.countryCode]
  refine ⟨?_, prepared.finish (blind _)⟩
  have orderly := Builtin.orderly_rulesForCode
  rw [(Prepared.finish_country (orderly _)).2, (Prepared.finish_country (orderly _)).2,
    prepared.countryCode]

theorem parse_ignores_case_berlin :
    let source := Source.gated Builtin.load
    let shouted := parse (Locale.ofTag "de-DE") (.text "UNTER DEN LINDEN 77, 10117 BERLIN")
    let plain := parse (Locale.ofTag "de-DE") (.text "Unter den Linden 77, 10117 Berlin")
    source.Steady Builtin.load ∧
      equalIgnoringAsciiCase "Unter den Linden 77, 10117 Berlin"
        "UNTER DEN LINDEN 77, 10117 BERLIN" = true ∧
      ∃ address address',
        plain.Gives source (.fresh .root) address ∧ shouted.Gives source (.fresh .root) address' ∧
          address'.countryCode = address.countryCode ∧ address.SameButCase address' := by
  intro source shouted plain
  have steady : source.Steady Builtin.load := Source.steady_gated Builtin.load
  have alike : equalIgnoringAsciiCase "Unter den Linden 77, 10117 Berlin"
      "UNTER DEN LINDEN 77, 10117 BERLIN" = true := by decide +kernel
  obtain ⟨address, address', gives, code, same⟩ :=
    parse_ignores_case steady .root (Locale.ofTag "de-DE") alike
  obtain ⟨parsed, parsed'⟩ := gives _ .start
  exact ⟨steady, alike, address, address', parsed, parsed', code, same⟩

end Postal
