import Postal.Proofs.Address.Values
import Postal.Proofs.Country.Names
import Postal.Proofs.Formatting.Delegation
import Postal.Proofs.Fragment.CodeLine
import Postal.Proofs.Locale.Territory

/-!
# Parsing undoes formatting

Where a code comes before the name of a place, a formatted address is parsed to itself. A street may
look like a code or a name: the rules look at the last line first, and find both there.

* `Address.Canonical`: the addresses that are told apart from their text.
* `splitFragments_layOut`: the fragments of a formatted address.
* `Prepared.finish_codeFirst`: the address of these fragments.
* `parse_format`: parsing what was formatted.
-/

namespace Postal

open Unicode

/-! ## Canonical addresses -/

structure IsStreet (line : List Char) : Prop where
  filled : line ≠ []
  joined : ∀ c ∈ line, isFragmentSeparator c = false
  single : SingleSpaced line

/-- An address whose text tells its components apart. -/
structure Address.Canonical (address : Address) (territory : String) (count : Nat) : Prop where
  format : address.format = .latin
  region : address.region = none
  postOffice : address.postOffice = none
  countryCode : address.countryCode = some territory
  postalCode : ∃ code, address.postalCode = some code ∧ IsCode code.toList count
  locality : ∃ name, address.locality = some name ∧ IsName name.toList
  streetAddress : address.streetAddress = none ∨
    ∃ lines : List String, lines ≠ [] ∧ (∀ line ∈ lines, IsStreet line.toList) ∧
      address.streetAddress = some (", ".intercalate lines)

/-- Detection finds the country of an address, which is the whole last fragment, or none if the
address names none. -/
def Address.Detected (address : Address) (territory : String) (fragments : List (List Char))
    (tables : List NameTable) : Prop :=
  match address.country with
  | none => findCountry fragments tables = none
  | some name => fragments.getLast? = some name.toList ∧
      findCountry fragments tables =
        some ⟨fragments.length - 1, 0, name.toList.length, territory⟩

/-! ## Formatting -/

theorem templatePieces_codeFirst : templatePieces codeFirstTemplate.toList =
    [.placeholder "streetAddress".toList, .character '\n', .placeholder "postalCode".toList,
      .character ' ', .placeholder "locality".toList, .character '\n',
      .placeholder "country".toList] := by
  decide +kernel

theorem substitute_codeFirst (address : Address) :
    substitute codeFirstTemplate.toList address =
      (address.streetAddress.getD "").toList ++ '\n' :: (codeLine (address.postalCode.getD "").toList
        (address.locality.getD "").toList ++ '\n' :: (address.country.getD "").toList) := by
  rw [substitute, templatePieces_codeFirst]
  simp [TemplatePiece.text, codeLine]
  rfl

theorem Formatter.template_codeFirst {formatter : Formatter} {count : Nat}
    (codeFirst : formatter.rules.ruleset.CodeFirst count) (style : formatter.style = defaultStyle) :
    formatter.template .latin = codeFirstTemplate := by
  have own : formatter.rules.ruleset.style? defaultStyle = some (.uniform codeFirstTemplate) :=
    codeFirst.template
  rw [template, style, own]
  rfl

theorem splitFragments_layOut {formatter : Formatter} {count : Nat} {address : Address}
    (codeFirst : formatter.rules.ruleset.CodeFirst count) (style : formatter.style = defaultStyle)
    (latin : address.format = .latin) :
    splitFragments (formatter.layOut address).toList =
      splitFragments (address.streetAddress.getD "").toList ++
        (splitFragments (codeLine (address.postalCode.getD "").toList
          (address.locality.getD "").toList) ++
            splitFragments (address.country.getD "").toList) := by
  have separates : isFragmentSeparator '\n' = true := by decide
  rw [Formatter.layOut, String.toList_ofList, latin, Formatter.template_codeFirst codeFirst style,
    render, splitFragments_cleanWhitespace, substitute_codeFirst, splitFragments_append separates,
    splitFragments_append separates]

/-! ## Streets -/

def streetOf (lines : List (List Char)) : Option String :=
  if lines.isEmpty then none else some (String.ofList (", ".toList.intercalate lines))

theorem Address.Canonical.streetOf_eq {address : Address} {territory : String} {count : Nat}
    (canonical : address.Canonical territory count) :
    cleanValue (streetOf (splitFragments (address.streetAddress.getD "").toList)) =
      address.streetAddress := by
  rcases canonical.streetAddress with absent | ⟨lines, present, streets, given⟩
  · rw [absent]
    rfl
  · have whole : ∀ line ∈ lines.map String.toList, splitFragments line = [line] :=
      List.forall_mem_map.mpr fun line listed =>
        splitFragments_of_single (streets line listed).filled (streets line listed).joined
          (streets line listed).single
    have split : splitFragments (", ".intercalate lines).toList = lines.map String.toList := by
      rw [String.toList_intercalate]
      exact splitFragments_intercalate whole
    have street : streetOf (lines.map String.toList) = some (", ".intercalate lines) := by
      rw [streetOf, if_neg (by simpa using present), ← String.toList_intercalate, String.ofList_toList]
    have trimmed : trim (", ".intercalate lines).toList = (", ".intercalate lines).toList := by
      rw [String.toList_intercalate]
      exact trim_intercalate (List.forall_mem_map.mpr fun line listed => (streets line listed).filled)
        (List.forall_mem_map.mpr fun line listed => (streets line listed).single)
    have notEmpty : ", ".intercalate lines ≠ "" := by
      intro empty
      rw [empty] at split
      exact present (List.map_eq_nil_iff.mp split.symm)
    rw [given, Option.getD_some, split, street, cleanValue_eq_self notEmpty trimmed]

/-! ## Parsing -/

theorem prepare_of_detected {text : List Char} {body : List (List Char)} {address : Address}
    {tables : List NameTable} {locale : Locale} {territory : String}
    (split : splitFragments text = body ++ splitFragments (address.country.getD "").toList)
    (detected : address.Detected territory (splitFragments text) tables)
    (region : locale.region = some territory) :
    (prepare text tables locale).country = address.country ∧
      (prepare text tables locale).countryCode = some territory ∧
        removeEmpty (prepare text tables locale).fragments = body := by
  have tidy : removeEmpty body = body := by
    have whole := removeEmpty_splitFragments text
    rw [split, removeEmpty_append, removeEmpty_splitFragments] at whole
    exact List.append_cancel_right whole
  cases named : address.country with
  | none =>
    have unnamed : findCountry (splitFragments text) tables = none := by
      rw [Address.Detected, named] at detected
      exact detected
    have alone : splitFragments text = body := by
      rw [split, named]
      exact List.append_nil body
    rw [prepare, unnamed]
    exact ⟨rfl, region, by rw [alone, tidy]⟩
  | some name =>
    rw [Address.Detected, named] at detected
    obtain ⟨last, found⟩ := detected
    -- The name is a fragment of the text, so it has no fragments but itself.
    have own : splitFragments name.toList = [name.toList] :=
      splitFragments_of_mem (List.mem_of_getLast? last)
    rw [named, Option.getD_some, own] at split
    rw [prepare, found, split, List.length_append, List.length_singleton]
    refine ⟨?_, rfl, ?_⟩
    · simp [Sighting.text]
    · -- The cut leaves an empty fragment, which rules pass over.
      have nothing : Sighting.cutFrom ⟨body.length, 0, name.toList.length, territory⟩ name.toList =
          [] := by
        simp [Sighting.cutFrom]
      dsimp only
      rw [Nat.add_sub_cancel, Sighting.cut, modify_concat, nothing, removeEmpty_append, tidy]
      exact List.append_nil body

theorem Address.set_none {address : Address} {component : Component}
    (absent : address.get component = none) : address.set component none = address := by
  have same : cleanValue none = address.get component := absent.symm
  rw [set, same]
  cases component <;> rfl

theorem Prepared.finish_codeFirst {prepared : Prepared} {ruleset : Ruleset} {count : Nat}
    {others : List (List Char)} {code name : List Char} (codeFirst : ruleset.CodeFirst (count + 1))
    (isCode : IsCode code (count + 1)) (isName : IsName name)
    (lines : removeEmpty prepared.fragments = others ++ [codeLine code name])
    (tidy : removeEmpty others = others) :
    prepared.finish ruleset =
      (((prepared.start .latin).set .postalCode (some (String.ofList code))).set .locality
        (some (String.ofList name))).set .streetAddress (streetOf others) := by
  obtain ⟨source, rules⟩ := codeFirst.rules
  have script : prepared.script ruleset = .latin := by
    rw [script, codeFirst.uniform]
    rfl
  have sheet : prepared.worksheet ruleset = ⟨others, ((prepared.start .latin).set .postalCode
      (some (String.ofList code))).set .locality (some (String.ofList name))⟩ := by
    rw [worksheet, script, codeFirst.side, rules]
    exact Worksheet.applyAll_codeFirst source _ isCode isName lines tidy
  have noStreet : ∀ code name, (((prepared.start .latin).set .postalCode code).set .locality
      name).get .streetAddress = none := by
    intro code name
    have apart : ∀ component ∈ [Component.country, .countryCode, .postalCode, .locality],
        Component.streetAddress ≠ component := by decide
    simp [start, Address.get_set_of_ne, apart]
    rfl
  rw [finish, sheet, script, codeFirst.joint, streetOf]
  dsimp only
  split
  · exact (Address.set_none (noStreet _ _)).symm
  · rfl

theorem IsCode.cleanValue_eq {code : String} {count : Nat} (h : IsCode code.toList (count + 1)) :
    cleanValue (some code) = some code :=
  cleanValue_eq_self (fun empty => h.filled (empty ▸ rfl)) h.single.trim_eq

theorem IsName.cleanValue_eq {name : String} (h : IsName name.toList) :
    cleanValue (some name) = some name :=
  cleanValue_eq_self (fun empty => h.filled (empty ▸ rfl)) h.single.trim_eq

theorem cleanValue_territory {territory : String} {count : Nat}
    (listed : (territory, count) ∈ codeTerritories) :
    cleanValue (some territory) = some territory ∧ ∃ fewer, count = fewer + 1 := by
  simp only [codeTerritories, List.mem_cons, Prod.mk.injEq, List.not_mem_nil, or_false] at listed
  rcases listed with ⟨rfl, rfl⟩ | ⟨rfl, rfl⟩ | ⟨rfl, rfl⟩ <;>
    exact ⟨by decide, _, rfl⟩

theorem cleanValue_of_mem_splitFragments {name : String} {text : List Char}
    (h : name.toList ∈ splitFragments text) : cleanValue (some name) = some name := by
  obtain ⟨made, filled⟩ := List.mem_filter.mp h
  obtain ⟨piece, -, same⟩ := List.mem_map.mp made
  refine cleanValue_eq_self (fun empty => ?_) ?_
  · rw [empty] at filled
    exact absurd filled (by decide)
  · rw [← same, trim_trim]

theorem Address.Canonical.eq_set {address : Address} {territory : String} {count : Nat}
    (canonical : address.Canonical territory (count + 1))
    (trimmed : cleanValue (some territory) = some territory)
    (named : cleanValue address.country = address.country) {code name : String}
    (postalCode : address.postalCode = some code) (locality : address.locality = some name)
    (isCode : IsCode code.toList (count + 1)) (isName : IsName name.toList) :
    (((((({ format := .latin } : Address).set .country address.country).set .countryCode
      (some territory)).set .postalCode (some code)).set .locality (some name)).set .streetAddress
        (streetOf (splitFragments (address.streetAddress.getD "").toList))) = address := by
  simp only [Address.set, trimmed, named, isCode.cleanValue_eq, isName.cleanValue_eq,
    canonical.streetOf_eq]
  obtain ⟨street, place, region, postal, office, country, own, script⟩ := address
  obtain rfl := canonical.format
  obtain rfl := canonical.region
  obtain rfl := canonical.postOffice
  obtain rfl := canonical.countryCode
  obtain rfl := postalCode
  obtain rfl := locality
  rfl

theorem finish_prepare_layOut {formatter : Formatter} {ruleset : Ruleset} {address : Address}
    {territory : String} {count : Nat} {tables : List NameTable} {locale : Locale}
    (listed : (territory, count) ∈ codeTerritories)
    (laid : formatter.rules.ruleset.CodeFirst count) (style : formatter.style = defaultStyle)
    (read : ruleset.CodeFirst count) (region : locale.region = some territory)
    (canonical : address.Canonical territory count)
    (detected : address.Detected territory (splitFragments (formatter.layOut address).toList) tables) :
    (prepare (formatter.layOut address).toList tables locale).countryCode = some territory ∧
      (prepare (formatter.layOut address).toList tables locale).finish ruleset = address := by
  obtain ⟨trimmed, count, rfl⟩ := cleanValue_territory listed
  obtain ⟨code, postalCode, isCode⟩ := canonical.postalCode
  obtain ⟨name, locality, isName⟩ := canonical.locality
  have split : splitFragments (formatter.layOut address).toList =
      (splitFragments (address.streetAddress.getD "").toList ++
        [codeLine code.toList name.toList]) ++ splitFragments (address.country.getD "").toList := by
    rw [splitFragments_layOut laid style canonical.format, postalCode, locality, Option.getD_some,
      Option.getD_some, splitFragments_codeLine isCode isName, List.append_assoc]
  have named : cleanValue address.country = address.country := by
    cases given : address.country with
    | none => rfl
    | some name =>
      rw [Address.Detected, given] at detected
      exact cleanValue_of_mem_splitFragments (List.mem_of_getLast? detected.1)
  obtain ⟨country, found, lines⟩ := prepare_of_detected split detected region
  refine ⟨found, ?_⟩
  rw [Prepared.finish_codeFirst read isCode isName lines (removeEmpty_splitFragments _),
    Prepared.start, country, found, String.ofList_toList, String.ofList_toList]
  exact canonical.eq_set trimmed named postalCode locality isCode isName

/-! ## Formatting and parsing over a store -/

theorem Formatter.foreignTerritory?_of_region {formatter : Formatter} {address : Address}
    {territory : String} (region : formatter.locale.region = some territory)
    (given : address.countryCode = some territory) :
    formatter.foreignTerritory? address = none := by
  simp [foreignTerritory?, region, given, equalIgnoringAsciiCase]

theorem eval_parse_layOut {formatter : Formatter} {address : Address} {territory : String}
    {count : Nat} {locale : Locale} (listed : (territory, count) ∈ codeTerritories)
    (laid : formatter.rules.ruleset.CodeFirst count) (style : formatter.style = defaultStyle)
    (region : locale.region = some territory) (canonical : address.Canonical territory count)
    (detected : address.Detected territory (splitFragments (formatter.layOut address).toList)
      ((countryTables locale).eval (View.ofAnswers Builtin.load))) :
    (parse locale (.text (formatter.layOut address))).eval (View.ofAnswers Builtin.load) =
      address := by
  obtain ⟨value, mem, codeFirst⟩ := codeFirst_of_mem listed
  have territorial : (Locale.ofRegion territory).region = some territory := by
    rw [(Builtin.value?_of_mem mem).1]
  have read : (rulesForCode (some territory)).eval (View.ofAnswers Builtin.load) =
      Governing.ofJson (Locale.ofRegion territory).spec value :=
    Builtin.eval_rulesForLocale (Locale.determined_ofRegion territory) territorial mem
  obtain ⟨code, address_eq⟩ := finish_prepare_layOut listed laid style (codeFirst _) region canonical
    detected
  rw [eval_parse_text, code, read, address_eq]

def Formatter.builtin (tag : String) : Formatter where
  locale := Locale.ofTag tag
  style := defaultStyle
  rules := (rulesForLocale (Locale.ofTag tag)).eval (View.ofAnswers Builtin.load)

theorem Formatter.eval_forLocale_builtin (tag : String) :
    (forLocale (Locale.ofTag tag) defaultStyle).eval (View.ofAnswers Builtin.load) = builtin tag :=
  eval_forLocale _ _ _

theorem Formatter.builtin_codeFirst {territory tag : String} {count : Nat}
    (listed : (territory, count) ∈ codeTerritories)
    (region : (Locale.ofTag tag).region = some territory) :
    (builtin tag).rules.ruleset.CodeFirst count := by
  obtain ⟨value, mem, codeFirst⟩ := codeFirst_of_mem listed
  rw [builtin, Builtin.eval_rulesForLocale (Locale.determined_ofTag tag) region mem]
  exact codeFirst _

def germanPairs : List NamedCode :=
  Builtin.CountryNames.germanNames.map fun (name, code) => ⟨name, code⟩

theorem ofJson_germanNames (spec : String) :
    NameTable.ofJson spec (Builtin.withMark false Builtin.CountryNames.germanNames) =
      .ok (.ofPairs germanPairs) := by
  have members : (Json.sortMembers (("generated", .bool false) ::
      Builtin.CountryNames.germanNames.map fun (name, code) => (name, .string code))).filterMap
        NameTable.pairOfMember? = germanPairs := by
    decide +kernel
  rw [← members]
  rfl

theorem eval_countryTables_german : ∃ others,
    (countryTables (Locale.ofTag "de-DE")).eval (View.ofAnswers Builtin.load) =
      .ofPairs germanPairs :: others := by
  have localized : (countryNames (Locale.ofTag "de-DE")).eval (View.ofAnswers Builtin.load) =
      some ⟨"de", .ofPairs germanPairs⟩ := by
    have resolved : (resolve DataKey.countryNames (Locale.ofTag "de-DE")).eval
        (View.ofAnswers Builtin.load) =
          .ok (some ⟨"de", Builtin.withMark false Builtin.CountryNames.germanNames⟩) := by
      rfl
    rw [countryNames, Program.bind_eq, Program.eval_bind, resolved, namesFrom, Program.eval,
      View.ofAnswers]
    dsimp only
    rw [ofJson_germanNames]
    rfl
  rw [countryTables, Program.bind_eq, Program.eval_bind, localized, Program.bind_eq,
    Program.eval_bind]
  exact ⟨_, rfl⟩

/-- Over the built-in data, parsing gives back a canonical address that was formatted in the default
style, in whatever language of its territory the two are done, and whatever use the store has been
put to. -/
theorem parse_format {σ : Type} {source : Source (StateM σ)} (steady : source.Steady Builtin.load)
    (default : Locale) {territory : String} {count : Nat}
    (listed : (territory, count) ∈ codeTerritories) {laying reading : String}
    (laid : (Locale.ofTag laying).region = some territory)
    (read : (Locale.ofTag reading).region = some territory) {address : Address}
    (canonical : address.Canonical territory count) :
    ∃ (formatter : Formatter) (text : String) (tables : List NameTable),
      ∀ store, (Store.fresh default).Reaches source store →
        (Formatter.forLocale (Locale.ofTag laying) defaultStyle).Gives source store formatter ∧
          (formatter.format address).Gives source store text ∧
            (countryTables (Locale.ofTag reading)).Gives source store tables ∧
              (address.Detected territory (splitFragments text.toList) tables →
                (parse (Locale.ofTag reading) (.text text)).Gives source store address) := by
  have codeFirst := Formatter.builtin_codeFirst listed laid
  have home : (Formatter.builtin laying).foreignTerritory? address = none :=
    Formatter.foreignTerritory?_of_region laid canonical.countryCode
  refine ⟨.builtin laying, (Formatter.builtin laying).layOut address,
    (countryTables (Locale.ofTag reading)).eval (View.ofAnswers Builtin.load), ?_⟩
  intro store used
  refine ⟨?forLocale, ?format, ?tables, ?parse⟩
  case forLocale =>
    have gives := Program.gives_of_reaches steady used fun view =>
      Formatter.forLocale_faithful view (Locale.ofTag laying) defaultStyle
    rwa [Formatter.eval_forLocale_builtin] at gives
  case format =>
    have gives := Program.gives_of_reaches steady used fun view =>
      Formatter.format_faithful view (.builtin laying) address
    rwa [Formatter.format_of_home home] at gives ⊢
  case tables => exact Program.gives_of_reaches steady used (countryTables_honest _).faithful
  case parse =>
    intro detected
    have gives := Program.gives_of_reaches steady used
      (parse_honest (Locale.ofTag reading) (.text ((Formatter.builtin laying).layOut address))).faithful
    rwa [eval_parse_layOut listed codeFirst rfl read canonical detected] at gives

theorem parse_format_german :
    let source := Source.gated Builtin.load
    let address : Address :=
      { streetAddress := some "Herrenberger Straße 71034", postalCode := some "71034",
        locality := some "Böblingen", country := some "Deutschland", countryCode := some "DE" }
    source.Steady Builtin.load ∧ ("DE", 5) ∈ codeTerritories ∧
      (Locale.ofTag "de-DE").region = some "DE" ∧ address.Canonical "DE" 5 ∧
        ∃ (formatter : Formatter) (text : String),
          (Formatter.forLocale (Locale.ofTag "de-DE") defaultStyle).Gives source (.fresh .root)
              formatter ∧
            (formatter.format address).Gives source (.fresh .root) text ∧
              (parse (Locale.ofTag "de-DE") (.text text)).Gives source (.fresh .root) address := by
  intro source address
  have steady : source.Steady Builtin.load := ⟨fun _ _ => rfl, fun _ _ _ => Source.gated_advance⟩
  have listed : ("DE", 5) ∈ codeTerritories := by decide
  have region : (Locale.ofTag "de-DE").region = some "DE" := by decide +kernel
  have isCode : IsCode "71034".toList 5 := ⟨by decide, by simp⟩
  have isName : IsName "Böblingen".toList := by
    have solid : ∀ c ∈ "Böblingen".toList, isWhitespace c = false := by simp [isWhitespace]
    have plain : "Böblingen".toList.all
        (fun c => ! isDecimal c && (c != ',' && c != '，')) = true := by
      decide +kernel
    exact ⟨by decide, by simpa using plain, .of_forall_not solid, by decide, by decide⟩
  have isStreet : IsStreet "Herrenberger Straße 71034".toList := by
    have blank : ∀ c ∈ "Herrenberger Straße 71034".toList, isWhitespace c = true → c = ' ' := by
      simp [isWhitespace]
    exact ⟨by decide, by simp [isFragmentSeparator], blank, by decide, by decide, by decide⟩
  have streets : ∀ line ∈ ["Herrenberger Straße 71034"], IsStreet line.toList := by
    intro line mem
    rwa [List.mem_singleton.mp mem]
  have canonical : address.Canonical "DE" 5 :=
    ⟨rfl, rfl, rfl, rfl, ⟨_, rfl, isCode⟩, ⟨_, rfl, isName⟩, .inr ⟨_, by simp, streets, rfl⟩⟩
  refine ⟨steady, listed, region, canonical, ?_⟩
  obtain ⟨formatter, text, tables, gives⟩ :=
    parse_format steady .root listed region region canonical
  obtain ⟨laid, formatted, known, parsed⟩ := gives _ .start
  refine ⟨formatter, text, laid, formatted, parsed ?_⟩
  have own : formatter = .builtin "de-DE" := by
    rw [laid.eq_eval steady (Formatter.forLocale_faithful · _ _) true,
      Formatter.eval_forLocale_builtin]
  have home : formatter.foreignTerritory? address = none :=
    Formatter.foreignTerritory?_of_region (by rw [own]; exact region) rfl
  have layout : text = formatter.layOut address := by
    rw [formatted.eq_eval steady (Formatter.format_faithful · _ _) true,
      Formatter.format_of_home home]
    rfl
  have fragments : splitFragments text.toList =
      ["Herrenberger Straße 71034".toList, "71034 Böblingen".toList, "Deutschland".toList] := by
    have codeFirst : formatter.rules.ruleset.CodeFirst 5 :=
      own ▸ Formatter.builtin_codeFirst listed region
    rw [layout, splitFragments_layOut codeFirst (by rw [own]; rfl) rfl]
    decide +kernel
  have found : (NameTable.ofPairs germanPairs).findIn? ["Herrenberger Straße 71034".toList,
      "71034 Böblingen".toList, "Deutschland".toList] = some ⟨2, 0, 11, "DE"⟩ := by
    -- Only the names before this one have to be looked at: those that are as long or longer.
    apply NameTable.findIn?_ofPairs ⟨"Deutschland", "DE"⟩
    · decide +kernel
    · decide
    · decide +kernel
    · decide +kernel
  obtain ⟨others, tables_eq⟩ := eval_countryTables_german
  rw [fragments, known.eq_eval steady (countryTables_honest _).faithful true, tables_eq]
  refine ⟨rfl, ?_⟩
  rw [findCountry, List.findSome?_cons, found]
  rfl

end Postal
