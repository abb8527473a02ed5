import Postal.Proofs.Country.Names
import Postal.Proofs.Fragment.Cleaning
import Postal.Proofs.Store.Operation
import Postal.Proofs.Store.Steady
import Postal.Proofs.Text.Significant
import Postal.Proofs.Unicode.Letters

namespace Postal

open Unicode

theorem joins_of_not_isSignificant {c : Char} (h : isSignificant c = false) :
    isWhitespace c = true ∨ c = '-' ∨ c = ',' ∨ c = '，' := by
  simpa only [isSignificant, Bool.not_eq_false', Bool.or_eq_true, beq_iff_eq, or_assoc] using h

theorem isSignificant_of_isAsianCharacter {c : Char} (h : isAsianCharacter c = true) :
    isSignificant c = true := by
  by_contra joining
  rcases joins_of_not_isSignificant (Bool.eq_false_iff.mpr joining) with white | rfl | rfl | rfl
  · simp [isAsianCharacter, asianRanges] at h
    simp [isWhitespace] at white
    omega
  · exact absurd h (by decide)
  · exact absurd h (by decide)
  · exact absurd h (by decide)

theorem isSignificant_of_isOtherLetter {c : Char} (h : isOtherLetter c = true) :
    isSignificant c = true := by
  have letter : isAlphabetic c = true := (Bool.and_eq_true_iff.mp h).2
  by_contra joining
  rcases joins_of_not_isSignificant (Bool.eq_false_iff.mpr joining) with white | rfl | rfl | rfl
  · rw [isAlphabetic_of_isWhitespace white] at letter
    cases letter
  · exact absurd letter (by decide)
  · exact absurd letter (by decide)
  · rw [isAlphabetic_fullwidthComma] at letter
    cases letter

theorem countP_significant {test : Char → Bool} (h : ∀ c, test c = true → isSignificant c = true)
    (text : List Char) : (significant text).countP test = text.countP test := by
  rw [significant, List.countP_filter]
  refine List.countP_congr fun c _ => ?_
  rw [Bool.and_eq_true]
  exact ⟨And.left, fun fits => ⟨fits, h c fits⟩⟩

theorem detectScript_removeEmpty (fragments : List (List Char)) :
    detectScript (removeEmpty fragments) = detectScript fragments := by
  have count : ∀ {test : Char → Bool}, (∀ c, test c = true → isSignificant c = true) →
      (removeEmpty fragments).flatten.countP test = fragments.flatten.countP test := by
    intro test h
    rw [← countP_significant h, significant_flatten_removeEmpty, countP_significant h]
  rw [detectScript, detectScript, count fun _ => isSignificant_of_isAsianCharacter,
    count fun _ => isSignificant_of_isOtherLetter]

structure Address.SameButCountry (first second : Address) : Prop where
  format : second.format = first.format
  get : ∀ component, component ≠ .country → second.get component = first.get component

namespace Address.SameButCountry

variable {first second : Address}

theorem refl (address : Address) : address.SameButCountry address :=
  ⟨rfl, fun _ _ => rfl⟩

theorem set (same : first.SameButCountry second) (component : Component) (value : Option String) :
    (first.set component value).SameButCountry (second.set component value) where
  format := by rw [format_set, format_set, same.format]
  get other named := by
    by_cases here : other = component
    · rw [here, get_set_self, get_set_self]
    · rw [get_set_of_ne _ _ here, get_set_of_ne _ _ here, same.get other named]

theorem set_country (same : first.SameButCountry second) (name name' : Option String) :
    (first.set .country name).SameButCountry (second.set .country name') where
  format := by rw [format_set, format_set, same.format]
  get other named := by rw [get_set_of_ne _ _ named, get_set_of_ne _ _ named, same.get other named]

end Address.SameButCountry

namespace Worksheet

structure SameButCountry (first second : Worksheet) : Prop where
  fragments : second.fragments = first.fragments
  address : first.address.SameButCountry second.address

variable {side : Side} {script : Script} {first second : Worksheet}

theorem SameButCountry.tidy (same : first.SameButCountry second) :
    first.tidy.SameButCountry second.tidy where
  fragments := congrArg removeEmpty same.fragments
  address := same.address

theorem sameButCountry_apply (same : first.SameButCountry second) (rule : Rule) :
    (first.apply side script rule).SameButCountry (second.apply side script rule) := by
  obtain ⟨fragments, address⟩ := first
  obtain ⟨fragments', address'⟩ := second
  obtain ⟨rfl, same⟩ := same
  unfold apply
  -- What a rule finds depends on the fragments, which are the same; it is put into the address.
  cases rule.matcher with
  | none => exact ⟨rfl, same.set _ _⟩
  | some matcher =>
    dsimp only
    cases rule.hit? matcher side script fragments' with
    | none => exact ⟨rfl, same⟩
    | some hit => exact ⟨rfl, same.set _ _⟩

theorem sameButCountry_applyAll (same : first.tidy.SameButCountry second.tidy)
    (rules : List Rule) :
    (applyAll side script first rules).SameButCountry (applyAll side script second rules) := by
  induction rules generalizing first second with
  | nil => exact same
  | cons rule rules ih =>
    rw [applyAll, applyAll, same.fragments]
    split
    · exact same
    · exact ih (sameButCountry_apply same rule).tidy

end Worksheet

theorem Prepared.script_congr {first second : Prepared}
    (fragments : removeEmpty second.fragments = removeEmpty first.fragments) (ruleset : Ruleset) :
    second.script ruleset = first.script ruleset := by
  -- Blanks in the fragments may differ, and only significant characters are counted.
  rw [script, script, ← detectScript_removeEmpty, fragments, detectScript_removeEmpty]

theorem Prepared.sameButCountry_finish {first second : Prepared}
    (fragments : removeEmpty second.fragments = removeEmpty first.fragments)
    (code : second.countryCode = first.countryCode) (ruleset : Ruleset) :
    (first.finish ruleset).SameButCountry (second.finish ruleset) := by
  have script := script_congr fragments ruleset
  have start : (first.start (first.script ruleset)).SameButCountry
      (second.start (second.script ruleset)) := by
    rw [Prepared.start, Prepared.start, script, code]
    exact ((Address.SameButCountry.refl _).set_country _ _).set _ _
  have sheet : (first.worksheet ruleset).SameButCountry (second.worksheet ruleset) := by
    rw [worksheet, worksheet, script]
    rw [script] at start
    refine Worksheet.sameButCountry_applyAll ?_ _
    exact ⟨fragments, start⟩
  rw [finish, finish, sheet.fragments, script]
  dsimp only
  split
  · exact sheet.address
  · exact sheet.address.set _ _

theorem prepare_of_found {text : List Char} {tables : List NameTable} (locale : Locale)
    {found : Sighting} (sighted : findCountry (splitFragments text) tables = some found) :
    prepare text tables locale = ⟨found.cut (splitFragments text),
      some (String.ofList (found.text (splitFragments text))), some found.code⟩ := by
  rw [prepare, sighted]

/-- Two texts in which the same country is found, in whatever language, and which are the same
without its name but for blanks, are parsed by the same rules into addresses that differ in the name
of the country at most. -/
theorem parse_of_country_named_otherwise {σ : Type} {source : Source (StateM σ)}
    {answers : DataKey → Outcome} (steady : source.Steady answers) {store : Store}
    (quiet : store.cache.Quiet) (locale : Locale) :
    ∃ tables,
      (∀ now, store.Reaches source now → (countryTables locale).Gives source now tables) ∧
      ∀ (text other : String) (found found' : Sighting),
        findCountry (splitFragments text.toList) tables = some found →
        findCountry (splitFragments other.toList) tables = some found' →
        found'.code = found.code →
        removeEmpty (found'.cut (splitFragments other.toList)) =
          removeEmpty (found.cut (splitFragments text.toList)) →
        ∃ rules address address',
          (∀ now, store.Reaches source now →
            (rulesForCode (some found.code)).Gives source now rules ∧
              (parse locale (.text text)).Gives source now address ∧
                (parse locale (.text other)).Gives source now address') ∧
          address = (prepare text.toList tables locale).finish rules.ruleset ∧
          address' = (prepare other.toList tables locale).finish rules.ruleset ∧
          address.SameButCountry address' := by
  have gives : ∀ {α : Type} (program : Program α), program.Honest →
      ∀ now, store.Reaches source now →
        program.Gives source now (program.eval (store.view answers)) :=
    fun _ honest _ reaches => reaches.gives steady quiet honest.faithful
  refine ⟨_, gives _ (countryTables_honest locale), ?_⟩
  intro text other found found' sighted sighted' code fragments
  have prepared := prepare_of_found locale sighted
  have prepared' := prepare_of_found locale sighted'
  rw [code] at prepared'
  have parsed := gives _ (parse_honest locale (.text text))
  rw [eval_parse_text, congrArg Prepared.countryCode prepared] at parsed
  have parsed' := gives _ (parse_honest locale (.text other))
  rw [eval_parse_text, congrArg Prepared.countryCode prepared'] at parsed'
  refine ⟨_, _, _, fun now reaches => ⟨gives _ (rulesForCode_honest _) now reaches,
    parsed now reaches, parsed' now reaches⟩, rfl, rfl, ?_⟩
  refine Prepared.sameButCountry_finish ?_ ?_ _
  · rw [prepared, prepared']
    exact fragments
  · rw [prepared, prepared']

theorem parse_of_germany_named_otherwise :
    let names : Json := .object [("Allemagne", .string "DE"), ("Deutschland", .string "DE")]
    let answers : DataKey → Outcome := fun key =>
      .ok (if key = ⟨DataKey.countryNames, "fr"⟩ then some names else none)
    let source := Source.gated answers
    source.Steady answers ∧
      ∃ address address',
        (parse (Locale.ofTag "fr-FR") (.text "10117 Berlin\nAllemagne")).Gives source {} address ∧
          (parse (Locale.ofTag "fr-FR") (.text "Deutschland\n10117 Berlin")).Gives source {} address' ∧
            address.SameButCountry address' := by
  intro names answers source
  have steady : source.Steady answers := Source.steady_gated answers
  have quiet : (Store.cache {}).Quiet := nofun
  obtain ⟨tables, known, agree⟩ :=
    parse_of_country_named_otherwise steady quiet (Locale.ofTag "fr-FR")
  have given : tables =
      [.ofPairs [⟨"Allemagne", "DE"⟩, ⟨"Deutschland", "DE"⟩], Builtin.nativeNames] :=
    ((known {} .start).run true).symm
  have found : findCountry (splitFragments "10117 Berlin\nAllemagne".toList) tables =
      some ⟨1, 0, 9, "DE"⟩ := by
    rw [given]
    refine findCountry_of_findIn? (NameTable.findIn?_ofPairs ⟨"Allemagne", "DE"⟩ ?_ ?_ ?_ ?_) _
    all_goals decide +kernel
  have found' : findCountry (splitFragments "Deutschland\n10117 Berlin".toList) tables =
      some ⟨0, 0, 11, "DE"⟩ := by
    rw [given]
    refine findCountry_of_findIn? (NameTable.findIn?_ofPairs ⟨"Deutschland", "DE"⟩ ?_ ?_ ?_ ?_) _
    all_goals decide +kernel
  obtain ⟨rules, address, address', gives, -, -, same⟩ :=
    agree _ _ _ _ found found' rfl (by decide +kernel)
  obtain ⟨-, parsed, parsed'⟩ := gives {} .start
  exact ⟨steady, address, address', parsed, parsed', same⟩

end Postal
