import Postal.Proofs.Fragment.Bounds

namespace Postal

structure FindsInBounds (fragments : List (List Char)) (tables : List NameTable) : Prop where
  found : findCountryInBytes fragments tables =
    .ok ((findCountry fragments tables).map (·.inBytes fragments))
  text : ∀ sighting ∈ findCountry fragments tables,
    (sighting.inBytes fragments).text fragments = .ok (sighting.text fragments)
  cut : ∀ sighting ∈ findCountry fragments tables,
    (sighting.inBytes fragments).cut fragments = .ok (sighting.cut fragments)

theorem findsInBounds (fragments : List (List Char)) (tables : List NameTable) :
    FindsInBounds fragments tables where
  found := findCountryInBytes_eq fragments tables
  text sighting found := by
    obtain ⟨_, _, _, _, shows⟩ := exists_shows found
    exact shows.text_inBytes
  cut sighting found := by
    obtain ⟨_, _, _, _, shows⟩ := exists_shows found
    exact shows.cut_inBytes

def prepareInBytes (text : List Char) (tables : List NameTable) (locale : Locale) :
    Checked Prepared := do
  let fragments := splitFragments text
  match ← findCountryInBytes fragments tables with
  | some sighting =>
    let country ← sighting.text fragments
    let rest ← sighting.cut fragments
    return ⟨rest, some (String.ofList country), some sighting.code⟩
  | none => return ⟨fragments, none, locale.region⟩

theorem prepareInBytes_eq (text : List Char) (tables : List NameTable) (locale : Locale) :
    prepareInBytes text tables locale = .ok (prepare text tables locale) := by
  have inBounds := findsInBounds (splitFragments text) tables
  rw [prepareInBytes, prepare, inBounds.found, Checked.ok_bind]
  cases found : findCountry (splitFragments text) tables with
  | none => rfl
  | some sighting =>
    rw [Option.map_some]
    dsimp only
    rw [inBounds.text sighting found, Checked.ok_bind, inBounds.cut sighting found]
    rfl

/-- Whatever is parsed, with whatever tables and rules, from either side and in either script: every
index is that of a fragment there is, nothing is counted down from nothing, and every range that is
read or cut out is in order, lies inside its text and ends between characters. With the search for
patterns of this library, the results are those of the steps that are not checked. -/
theorem parsing_in_bounds {finder : Finder} (bounded : finder.Bounded) (text : List Char)
    (tables : List NameTable) (locale : Locale) (fragments : List (List Char)) (side : Side)
    (script : Script) (sheet : Worksheet) (rules : List Rule) :
    prepareInBytes text tables locale = .ok (prepare text tables locale) ∧
      FindsInBounds fragments tables ∧
      (∃ after, Checked.applyRules finder side script sheet rules = .ok after) ∧
      Checked.applyRules Pattern.finder side script sheet rules =
        .ok (sheet.applyAll side script rules) :=
  ⟨prepareInBytes_eq text tables locale, findsInBounds fragments tables,
    Checked.exists_applyRules bounded side script sheet rules,
    Checked.applyRules_finder side script sheet rules⟩

/-- The first sign of the country takes three bytes, the letter that it is matched with only one. -/
theorem parsing_in_bounds_kenya :
    let fragments := ["Nairobi 00100".toList, "\u212Aenya".toList]
    let tables : List NameTable := [⟨[⟨"Kenya", "KE"⟩]⟩]
    let rules : List Rule := [⟨.locality, .first, some (.literals ["NAIROBI"]), 0⟩,
      ⟨.postalCode, .last, none, 0⟩, ⟨.region, .last, none, 0⟩]
    let sheet : Worksheet := ⟨["Nairobi 00100".toList, []], {}⟩
    Pattern.finder.Bounded ∧
      prepareInBytes "Nairobi 00100,\u212Aenya".toList tables .root =
        .ok ⟨sheet.fragments, some "\u212Aenya", some "KE"⟩ ∧
      findCountryInBytes fragments tables = .ok (some ⟨1, 0, 7, "KE"⟩) ∧
      Checked.applyRules Pattern.finder .start .latin sheet rules =
        .ok ⟨[], { locality := some "Nairobi", postalCode := some "00100" }⟩ := by
  intro fragments tables rules sheet
  have bounded := Pattern.finder_bounded
  obtain ⟨prepared, found, -, applied⟩ := parsing_in_bounds bounded
    "Nairobi 00100,\u212Aenya".toList tables .root fragments .start .latin sheet rules
  refine ⟨bounded, ?_, ?_, ?_⟩
  · exact prepared.trans (congrArg Except.ok (by decide +kernel))
  · exact found.found.trans (congrArg Except.ok (by decide +kernel))
  · exact applied.trans (congrArg Except.ok (by decide +kernel))

end Postal
