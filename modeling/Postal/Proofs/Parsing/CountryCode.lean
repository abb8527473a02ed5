import Postal.Proofs.Parsing.Conservation
import Postal.Proofs.Parsing.RoundTrip

namespace Postal

open Unicode

def nonTerritories : List String :=
  ["001", "002", "009", "019", "142", "150", "EU", "EZ", "UN", "XK", "ZZ"]

theorem isRegionCode_of_not_nonTerritory {code : String}
    (known : code ∈ regionCodes ++ nonTerritories) :
    isRegionCode code = true ↔ code ∉ nonTerritories := by
  have apart : ∀ code ∈ nonTerritories, isRegionCode code = false := by decide +kernel
  constructor
  · intro region other
    rw [apart code other] at region
    cases region
  · intro other
    rw [isRegionCode, List.contains_iff_mem]
    exact (List.mem_append.mp known).resolve_right other

theorem cleanValue_of_known {code : String} (known : code ∈ regionCodes ++ nonTerritories) :
    cleanValue (some code) = some code := by
  have clean : ∀ code ∈ regionCodes ++ nonTerritories, cleanValue (some code) = some code := by
    decide +kernel
  exact clean code known

def initialOf (code : String) : Nat :=
  (code.toList.headD ' ').toNat

/-- Codes may be looked up initial by initial, which spares most comparisons. -/
theorem mem_of_initials {codes known : List String} (initials : List Nat)
    (covered : ∀ code ∈ codes, initialOf code ∈ initials)
    (checked : ∀ initial ∈ initials,
      ∀ code ∈ codes.filter fun code => Nat.beq (initialOf code) initial,
        code ∈ known.filter fun code => Nat.beq (initialOf code) initial) :
    ∀ code ∈ codes, code ∈ known := by
  intro code mem
  have here : code ∈ codes.filter fun other => Nat.beq (initialOf other) (initialOf code) :=
    List.mem_filter.mpr ⟨mem, Nat.beq_refl _⟩
  exact (List.mem_filter.mp (checked _ (covered code mem) code here)).1

def NameTable.Listed (table : NameTable) : Prop :=
  ∀ entry ∈ table.entries,
    entry.name.isEmpty = false ∧ entry.code ∈ regionCodes ++ nonTerritories

theorem NameTable.listed_ofPairs {pairs : List NamedCode}
    (known : ∀ pair ∈ pairs, pair.code ∈ regionCodes ++ nonTerritories) : (ofPairs pairs).Listed := by
  intro entry mem
  obtain ⟨listed, filled⟩ := mem_entries_ofPairs.mp mem
  exact ⟨filled, known entry listed⟩

def NameTable.pairsOf : Json → List NamedCode
  | .object members => members.filterMap pairOfMember?
  | _ => []

theorem NameTable.eq_of_ofJson {spec : String} {value : Json} {table : NameTable}
    (h : (ofJson spec value).toOption = some table) : table = ofPairs (pairsOf value) := by
  cases value with
  | object members =>
    cases h
    rfl
  | null | bool _ | integer _ | decimal _ | string _ | array _ => cases h

theorem Json.mem_insertMember {key : String} {value : Json} {members : List (String × Json)}
    {member : String × Json} (h : member ∈ insertMember key value members) :
    member = (key, value) ∨ member ∈ members := by
  induction members with
  | nil => exact .inl (List.mem_singleton.mp h)
  | cons first members ih =>
    obtain ⟨name, other⟩ := first
    rw [insertMember] at h
    split at h
    · exact List.mem_cons.mp h
    · split at h
      · exact (List.mem_cons.mp h).imp_right (List.mem_cons_of_mem _)
      · rcases List.mem_cons.mp h with rfl | later
        · exact .inr List.mem_cons_self
        · exact (ih later).imp_right (List.mem_cons_of_mem _)

theorem Json.mem_sortMembers {members : List (String × Json)} {member : String × Json}
    (h : member ∈ sortMembers members) : member ∈ members := by
  induction members using List.reverseRecOn with
  | nil => cases h
  | append_singleton members last ih =>
    rw [sortMembers, List.foldl_append] at h
    rcases mem_insertMember h with rfl | earlier
    · exact List.mem_append_right _ List.mem_cons_self
    · exact List.mem_append_left _ (ih earlier)

theorem NameTable.mem_of_mem_pairsOf {generated : Bool} {names : List (String × String)}
    {pair : NamedCode} (h : pair ∈ pairsOf (Builtin.withMark generated names)) :
    (pair.name, pair.code) ∈ names := by
  obtain ⟨⟨name, value⟩, mem, made⟩ := List.mem_filterMap.mp h
  rcases List.mem_cons.mp (Json.mem_sortMembers mem) with mark | listed
  · cases mark
    cases made
  · obtain ⟨⟨name', code⟩, there, same⟩ := List.mem_map.mp listed
    cases same
    rw [pairOfMember?] at made
    split at made
    · cases made
    · cases made
      exact there

namespace Builtin

def namedCodes : List (String × String) :=
  CountryNames.germanNames ++ CountryNames.englishNames ++ CountryNames.frenchNames ++
    CountryNames.japaneseNames ++ CountryNames.albanianNames ++ CountryNames.chineseNames ++
      CountryNames.nativeNames

theorem known_namedCodes : ∀ name ∈ namedCodes, name.2 ∈ regionCodes ++ nonTerritories := by
  have known : ∀ code ∈ namedCodes.map (·.2), code ∈ regionCodes ++ nonTerritories := by
    refine mem_of_initials (0x30 :: 0x31 :: List.range' 0x41 26) ?_ ?_
    all_goals decide +kernel
  exact fun name mem => known name.2 (List.mem_map_of_mem mem)

theorem listed_nativeNames : nativeNames.Listed := by
  apply NameTable.listed_ofPairs
  intro pair mem
  obtain ⟨name, listed, rfl⟩ := List.mem_map.mp mem
  exact known_namedCodes name (by simp [namedCodes, listed])

theorem known_byLanguage : ∀ entry ∈ CountryNames.byLanguage,
    ∀ pair ∈ NameTable.pairsOf entry.2, pair.code ∈ regionCodes ++ nonTerritories := by
  have known : ∀ {names : List (String × String)}, names ⊆ namedCodes →
      ∀ pair ∈ NameTable.pairsOf (withMark false names), pair.code ∈ regionCodes ++ nonTerritories :=
    fun part pair mem => known_namedCodes _ (part (NameTable.mem_of_mem_pairsOf mem))
  simp only [CountryNames.byLanguage, List.forall_mem_cons]
  refine ⟨known ?_, known ?_, known ?_, known ?_, known ?_, known ?_, nofun⟩
  all_goals
    intro name listed
    simp [namedCodes, listed]

theorem listed_of_names {spec : String} {value : Json} {table : NameTable}
    (there : (View.ofAnswers load).Has DataKey.countryNames spec value)
    (made : (View.ofAnswers load).names spec value = some table) : table.Listed := by
  have known : CountryNames.byLanguage.lookup spec = some value := Except.ok.inj there
  obtain ⟨before, after, split, -⟩ := List.lookup_eq_some_iff.mp known
  have mem : (spec, value) ∈ CountryNames.byLanguage := by
    rw [split]
    exact List.mem_append_right _ List.mem_cons_self
  rw [NameTable.eq_of_ofJson made]
  exact NameTable.listed_ofPairs (known_byLanguage _ mem)

theorem listed_countryNames {locale : Locale} {found : Resolved NameTable}
    (h : (countryNames locale).eval (View.ofAnswers load) = some found) : found.value.Listed := by
  rw [countryNames, Program.bind_eq, Program.eval_bind] at h
  cases resolved : (resolve DataKey.countryNames locale).eval (View.ofAnswers load) with
  | error cause =>
    rw [resolved] at h
    cases h
  | ok data =>
    rw [resolved] at h
    cases data with
    | none => cases h
    | some data =>
      have there := has_of_resolveIn resolved
      obtain ⟨table, made, rfl⟩ := Option.map_eq_some_iff.mp h
      exact listed_of_names there made

theorem listed_countryTables (locale : Locale) :
    ∀ table ∈ (countryTables locale).eval (View.ofAnswers load), table.Listed := by
  have localized : ∀ {locale : Locale} {table : NameTable},
      table ∈ (((countryNames locale).eval (View.ofAnswers load)).map (·.value)).toList →
        table.Listed := by
    intro locale table mem
    obtain ⟨found, given, rfl⟩ := Option.map_eq_some_iff.mp (Option.mem_toList.mp mem)
    exact listed_countryNames given
  intro table mem
  rw [countryTables, Program.bind_eq, Program.eval_bind, Program.bind_eq, Program.eval_bind] at mem
  rcases List.mem_append.mp mem with first | english
  · rcases List.mem_append.mp first with own | native
    · exact localized own
    · rw [List.mem_singleton.mp native]
      exact listed_nativeNames
  · split at english
    · cases english
    · exact localized english

theorem rules_forCode {property : Ruleset → Prop} (generic : property .generic)
    (loaded : ∀ spec value, load ⟨DataKey.address, spec⟩ = .ok (some value) →
      property (Governing.ofJson spec value).ruleset) (code : Option String) :
    property ((rulesForCode code).eval (View.ofAnswers load)).ruleset := by
  cases code with
  | none => exact generic
  | some code =>
    rw [rulesForCode, Program.bind_eq, Program.eval_bind]
    cases resolved : (resolve DataKey.address (Locale.ofRegion code)).eval (View.ofAnswers load) with
    | error cause => exact generic
    | ok data =>
      cases data with
      | none => exact generic
      | some data => exact loaded _ _ (has_of_resolveIn resolved)

theorem orderly_rulesForCode (code : Option String) :
    ((rulesForCode code).eval (View.ofAnswers load)).ruleset.Orderly :=
  rules_forCode Ruleset.orderly_generic (fun _ _ => orderly_of_load) code

end Builtin

theorem toList_length_pos {text : String} (filled : text.isEmpty = false) :
    0 < text.toList.length := by
  rw [List.length_pos_iff]
  intro empty
  rw [String.toList_eq_nil_iff.mp empty] at filled
  cases filled

theorem exists_visible_of_sightingOf? {fragments : List (List Char)} {entry : NamedCode}
    {found : Sighting} (h : sightingOf? fragments entry = some found)
    (filled : entry.name.isEmpty = false) (firm : ∀ fragment ∈ fragments, Firm fragment) :
    found.code = entry.code ∧ ∃ c ∈ found.text fragments, isWhitespace c = false := by
  have long := toList_length_pos filled
  -- The name holds the first character of the first fragment or the last one of the last fragment.
  unfold sightingOf? at h
  split at h
  · rename_i first last isFirst isLast
    dsimp only at h
    split at h
    · cases h
      have here := firm first (List.mem_of_head? isFirst)
      obtain ⟨c, rest, rfl⟩ := List.exists_cons_of_ne_nil here.filled
      rw [List.head?_eq_getElem?] at isFirst
      refine ⟨rfl, c, ?_, here.first c rfl⟩
      obtain ⟨more, size⟩ := Nat.exists_eq_add_one.mpr long
      rw [Sighting.text, isFirst, size]
      exact List.mem_cons_self
    · obtain ⟨before, named, rfl⟩ := Option.map_eq_some_iff.mp h
      obtain ⟨named, -⟩ := Option.filter_eq_some_iff.mp named
      have there := firm last (List.mem_of_getLast? isLast)
      have length := length_of_endsWith? named
      rw [List.getLast?_eq_getElem?] at isLast
      refine ⟨rfl, last.getLast there.filled, ?_, there.last _ (List.getLast?_eq_some_getLast _)⟩
      have whole : (last.drop before.length).take entry.name.toList.length =
          last.drop before.length :=
        List.take_of_length_le (by rw [List.length_drop]; omega)
      rw [Sighting.text, isLast, Option.getD_some, whole]
      apply List.mem_of_getLast?
      rw [List.getLast?_drop, if_neg (Nat.not_le_of_lt (show before.length < last.length by omega))]
      exact List.getLast?_eq_some_getLast _
  · cases h

theorem sighted_of_findCountry {text : List Char} {tables : List NameTable} {found : Sighting}
    (listed : ∀ table ∈ tables, table.Listed)
    (sighted : findCountry (splitFragments text) tables = some found) :
    found.code ∈ regionCodes ++ nonTerritories ∧
      ∃ name, cleanValue (some (String.ofList (found.text (splitFragments text)))) = some name := by
  obtain ⟨table, mem, found'⟩ := List.exists_of_findSome?_eq_some sighted
  obtain ⟨entry, mem', seen⟩ := List.exists_of_findSome?_eq_some found'
  obtain ⟨filled, known⟩ := listed table mem entry mem'
  obtain ⟨code, visible⟩ := exists_visible_of_sightingOf? seen filled fun _ =>
    firm_of_mem_splitFragments
  rw [code]
  exact ⟨known, cleanValue_of_visible visible⟩

theorem Prepared.finish_country {prepared : Prepared} {ruleset : Ruleset}
    (orderly : ruleset.Orderly) :
    (prepared.finish ruleset).country = cleanValue prepared.country ∧
      (prepared.finish ruleset).countryCode = cleanValue prepared.countryCode := by
  have kept : ∀ component, component ≠ .streetAddress → component ∈ Component.reserved →
      (prepared.finish ruleset).get component =
        (prepared.start (prepared.script ruleset)).get component :=
    fun _ other reserved => (finish_get _ _ other).trans (worksheet_get _ orderly reserved)
  exact ⟨kept .country (by decide) (by decide), kept .countryCode (by decide) (by decide)⟩

theorem Builtin.eval_parse_of_found {locale : Locale} {text : String} {found : Sighting}
    (sighted : findCountry (splitFragments text.toList)
      ((countryTables locale).eval (View.ofAnswers load)) = some found) :
    let address := (parse locale (.text text)).eval (View.ofAnswers load)
    found.code ∈ regionCodes ++ nonTerritories ∧
      address.countryCode = some found.code ∧
      ∃ name, cleanValue (some (String.ofList (found.text (splitFragments text.toList)))) = some name ∧
        address.country = some name := by
  intro address
  obtain ⟨known, name, named⟩ := sighted_of_findCountry (listed_countryTables locale) sighted
  have read : address = _ := eval_parse_text _ locale text
  obtain ⟨country, code⟩ := Prepared.finish_country (orderly_rulesForCode _)
  rw [← read, prepare, sighted] at country code
  exact ⟨known, code.trans (cleanValue_of_known known), name, named, country.trans named⟩

theorem Builtin.country_eq_none {locale : Locale} {text : String}
    (unnamed : findCountry (splitFragments text.toList)
      ((countryTables locale).eval (View.ofAnswers load)) = none) :
    ((parse locale (.text text)).eval (View.ofAnswers load)).country = none := by
  rw [eval_parse_text, (Prepared.finish_country (orderly_rulesForCode _)).1, prepare, unnamed]
  rfl

/-- With the built-in data, the country of an address that is read from free text has the code of a
territory unless the name that was found is that of something else: a continent, a grouping, or no
region. -/
theorem country_is_territory_iff {σ : Type} {source : Source (StateM σ)}
    (steady : source.Steady Builtin.load) (default locale : Locale) (text : String) :
    ∃ tables address,
      (∀ store, (Store.fresh default).Reaches source store →
        (countryTables locale).Gives source store tables ∧
          (parse locale (.text text)).Gives source store address) ∧
      ((∀ name, address.country = some name →
          ∃ code, address.countryCode = some code ∧ isRegionCode code = true) ↔
        ∀ found, findCountry (splitFragments text.toList) tables = some found →
          found.code ∉ nonTerritories) := by
  refine ⟨_, _, fun store used =>
    ⟨Program.gives_of_reaches steady used (countryTables_honest locale).faithful,
      Program.gives_of_reaches steady used (parse_honest locale (.text text)).faithful⟩, ?_⟩
  cases sighted : findCountry (splitFragments text.toList)
      ((countryTables locale).eval (View.ofAnswers Builtin.load)) with
  | none => simp [Builtin.country_eq_none sighted]
  | some found =>
    obtain ⟨known, code, name, -, named⟩ := Builtin.eval_parse_of_found sighted
    simp [named, code, isRegionCode_of_not_nonTerritory known]

theorem findCountry_german {fragments : List (List Char)} {found : Sighting}
    (h : (NameTable.ofPairs germanPairs).findIn? fragments = some found) :
    findCountry fragments ((countryTables (Locale.ofTag "de-DE")).eval
      (View.ofAnswers Builtin.load)) = some found := by
  obtain ⟨others, tables⟩ := eval_countryTables_german
  rw [tables]
  exact findCountry_of_findIn? h others

theorem country_is_territory_iff_germany :
    let source := Source.gated Builtin.load
    source.Steady Builtin.load ∧
      ∃ address,
        (parse (Locale.ofTag "de-DE") (.text "Deutschland")).Gives source (.fresh .root) address ∧
          ∀ name, address.country = some name →
            ∃ code, address.countryCode = some code ∧ isRegionCode code = true := by
  intro source
  have steady : source.Steady Builtin.load := Source.steady_gated Builtin.load
  obtain ⟨tables, address, gives, territory⟩ :=
    country_is_territory_iff steady .root (Locale.ofTag "de-DE") "Deutschland"
  obtain ⟨known, parsed⟩ := gives _ .start
  refine ⟨steady, address, parsed, territory.mpr ?_⟩
  have sighted : findCountry (splitFragments "Deutschland".toList) tables =
      some ⟨0, 0, 11, "DE"⟩ := by
    rw [known.eq_eval steady (countryTables_honest _).faithful true]
    refine findCountry_german (NameTable.findIn?_ofPairs ⟨"Deutschland", "DE"⟩ ?_ ?_ ?_ ?_)
    all_goals decide +kernel
  rw [sighted]
  rintro found ⟨⟩
  decide

theorem parse_united_nations :
    let source := Source.gated Builtin.load
    ∃ address,
      (parse (Locale.ofTag "de-DE") (.text "Vereinte Nationen")).Gives source (.fresh .root) address ∧
        address.country = some "Vereinte Nationen" ∧ address.countryCode = some "UN" ∧
          isRegionCode "UN" = false := by
  intro source
  have steady : source.Steady Builtin.load := Source.steady_gated Builtin.load
  refine ⟨_, Program.gives_of_reaches steady .start (parse_honest _ _).faithful, ?_⟩
  have sighted : (NameTable.ofPairs germanPairs).findIn? (splitFragments "Vereinte Nationen".toList) =
      some ⟨0, 0, 17, "UN"⟩ := by
    refine NameTable.findIn?_ofPairs ⟨"Vereinte Nationen", "UN"⟩ ?_ ?_ ?_ ?_
    all_goals decide +kernel
  obtain ⟨-, code, name, written, named⟩ := Builtin.eval_parse_of_found (findCountry_german sighted)
  have same : cleanValue (some (String.ofList
      ((⟨0, 0, 17, "UN"⟩ : Sighting).text (splitFragments "Vereinte Nationen".toList)))) =
        some "Vereinte Nationen" := by
    decide +kernel
  rw [same] at written
  exact ⟨named.trans written.symm, code, by decide +kernel⟩

end Postal
