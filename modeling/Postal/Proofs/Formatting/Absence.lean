import Postal.Proofs.Formatting.Delegation
import Postal.Proofs.Formatting.Fallbacks
import Postal.Proofs.Parsing.RoundTrip

namespace Postal

/-- The same address, in which some components that were empty are absent. -/
structure Address.LeavesOut (address other : Address) : Prop where
  format : other.format = address.format
  get : ∀ component, other.get component = address.get component ∨
    (address.get component = some "" ∧ other.get component = none)

namespace Address.LeavesOut

variable {address other : Address}

theorem value_eq (leaves : address.LeavesOut other) (name : String) :
    (other.getNamed name).getD "" = (address.getNamed name).getD "" := by
  unfold getNamed
  cases Component.named? name with
  | none => rfl
  | some component =>
    rcases leaves.get component with same | ⟨empty, absent⟩
    · rw [Option.bind_some, Option.bind_some, same]
    · rw [Option.bind_some, Option.bind_some, empty, absent]
      rfl

theorem substitute_eq (leaves : address.LeavesOut other) (template : List Char) :
    substitute template other = substitute template address := by
  have pieces : TemplatePiece.text other = TemplatePiece.text address := by
    funext piece
    cases piece with
    | character c => rfl
    | placeholder name =>
      rw [TemplatePiece.text, TemplatePiece.text, leaves.value_eq]
  rw [substitute, substitute, pieces]

end Address.LeavesOut

namespace Formatter

variable {formatter : Formatter} {address other : Address}

theorem layOut_of_leavesOut (formatter : Formatter) (leaves : address.LeavesOut other) :
    formatter.layOut other = formatter.layOut address := by
  rw [layOut, layOut, leaves.format, render, render, leaves.substitute_eq]

theorem foreignTerritory?_of_absent (absent : other.countryCode = none) :
    formatter.foreignTerritory? other = none := by
  rw [foreignTerritory?, absent]

theorem foreignTerritory?_of_empty (empty : address.countryCode = some "") :
    formatter.foreignTerritory? address = some "" ↔
      ∃ own ∈ formatter.locale.region, isRegionCode own = true := by
  have other : ∀ own ∈ regionCodes, equalIgnoringAsciiCase "" own = false := by
    decide +kernel
  constructor
  · intro foreign
    unfold foreignTerritory? at foreign
    split at foreign
    · rename_i code own given region
      split at foreign
      · rename_i condition
        exact ⟨own, region, (Bool.and_eq_true_iff.mp condition).1⟩
      · cases foreign
    · cases foreign
  · rintro ⟨own, region, territory⟩
    exact foreignTerritory?_of_abroad
      ⟨own, region, territory, other own (by simpa [isRegionCode] using territory)⟩ empty

theorem format_of_leavesOut (leaves : address.LeavesOut other)
    (same : other.countryCode = address.countryCode) :
    formatter.format other = formatter.format address := by
  have territory : formatter.foreignTerritory? other = formatter.foreignTerritory? address := by
    rw [foreignTerritory?, foreignTerritory?, same]
  cases foreign : formatter.foreignTerritory? address with
  | none =>
    rw [format_of_home foreign, format_of_home (territory.trans foreign),
      layOut_of_leavesOut formatter leaves]
  | some code =>
    rw [format_of_foreign foreign, format_of_foreign (territory.trans foreign)]
    simp only [layOut_of_leavesOut _ leaves]

theorem eval_format_of_leavesOut_iff (view : View) (leaves : address.LeavesOut other) :
    (formatter.format other).eval view = (formatter.format address).eval view ↔
      (address.countryCode = some "" → other.countryCode = none →
        (∃ own ∈ formatter.locale.region, isRegionCode own = true) →
          textIn view "" formatter.style address = formatter.layOut address) := by
  rcases leaves.get .countryCode with same | ⟨empty, absent⟩
  · refine iff_of_true (by rw [format_of_leavesOut leaves same]) fun empty absent _ => ?_
    have codes : other.countryCode = address.countryCode := same
    rw [empty, absent] at codes
    cases codes
  · have home : (formatter.format other).eval view = formatter.layOut address := by
      rw [format_of_home (foreignTerritory?_of_absent absent), layOut_of_leavesOut formatter leaves]
      rfl
    rw [home]
    cases foreign : formatter.foreignTerritory? address with
    | none =>
      refine iff_of_true (by rw [format_of_home foreign]; rfl) fun _ _ territory => ?_
      rw [(foreignTerritory?_of_empty empty).mpr territory] at foreign
      cases foreign
    | some code =>
      obtain rfl : "" = code :=
        Option.some.inj (empty.symm.trans (countryCode_of_foreignTerritory? foreign))
      rw [eval_format_of_foreign view foreign]
      constructor
      · exact fun same _ _ _ => same.symm
      · exact fun same => (same empty absent ((foreignTerritory?_of_empty empty).mp foreign)).symm

/-- Over a source that does not change, the text of an address stays the same when components that are
empty are left out, with one exception: to the formatter of a territory an empty code of a country is
that of another one, and the rules for it may lay the address out in another way. -/
theorem text_of_leavesOut_iff {σ : Type} {source : Source (StateM σ)} {answers : DataKey → Outcome}
    (steady : source.Steady answers) {store : Store} (quiet : store.cache.Quiet)
    (formatter : Formatter) {address other : Address} (leaves : address.LeavesOut other) :
    ∃ text otherText,
      (∀ now, store.Reaches source now → (formatter.format address).Gives source now text ∧
        (formatter.format other).Gives source now otherText) ∧
      (otherText = text ↔
        (address.countryCode = some "" → other.countryCode = none →
          (∃ own ∈ formatter.locale.region, isRegionCode own = true) →
            textIn (store.view answers) "" formatter.style address = formatter.layOut address)) := by
  refine ⟨(formatter.format address).eval (store.view answers),
    (formatter.format other).eval (store.view answers), fun now used => ⟨?_, ?_⟩,
    eval_format_of_leavesOut_iff _ leaves⟩
  · exact used.gives steady quiet fun view => format_faithful view formatter address
  · exact used.gives steady quiet fun view => format_faithful view formatter other

theorem text_of_berlin_without_region :
    let source := Source.gated Builtin.load
    let address : Address :=
      { locality := some "Berlin", region := some "", postalCode := some "10117",
        postOffice := some "", countryCode := some "de" }
    let other : Address :=
      { locality := some "Berlin", postalCode := some "10117", countryCode := some "de" }
    source.Steady Builtin.load ∧ (Store.fresh .root).cache.Quiet ∧ address.LeavesOut other ∧
      ∃ text, ∀ now, (Store.fresh .root).Reaches source now →
        ((builtin "en-US").format address).Gives source now text ∧
          ((builtin "en-US").format other).Gives source now text := by
  intro source address other
  have steady : source.Steady Builtin.load := Source.steady_gated Builtin.load
  have quiet : (Store.fresh .root).cache.Quiet := nofun
  have leaves : address.LeavesOut other := by
    refine ⟨rfl, fun component => ?_⟩
    cases component <;> decide
  obtain ⟨text, otherText, gives, same⟩ :=
    text_of_leavesOut_iff steady quiet (builtin "en-US") leaves
  obtain rfl := same.mpr (fun _ absent => by cases absent)
  exact ⟨steady, quiet, leaves, otherText, gives⟩

theorem eval_rulesForLocale_empty :
    (rulesForLocale (Locale.ofRegion "")).eval (View.ofAnswers Builtin.load) = .generic := by
  have resolved : (resolve DataKey.address (Locale.ofRegion "")).eval (View.ofAnswers Builtin.load) =
      .ok none := by
    rfl
  rw [rulesForLocale, Program.bind_eq, Program.eval_bind, resolved]
  rfl

theorem template_generic (locale : Locale) (script : Script) :
    template ⟨locale, defaultStyle, .generic⟩ script = Ruleset.genericTemplate := by
  have generic : (Ruleset.generic.style? defaultStyle).bind (·.get script) =
      some Ruleset.genericTemplate :=
    Ruleset.template?_generic script
  rw [template_eq]
  change (((Ruleset.generic.style? defaultStyle).or (Ruleset.generic.style? defaultStyle)).bind
    (·.get script)).getD Ruleset.genericTemplate = _
  rw [Option.or_self, generic, Option.getD_some]

theorem text_of_empty_code :
    let source := Source.gated Builtin.load
    let address : Address :=
      { locality := some "Berlin", postalCode := some "10117", countryCode := some "" }
    let other : Address := { locality := some "Berlin", postalCode := some "10117" }
    (forLocale (Locale.ofTag "de-DE") defaultStyle).Gives source (.fresh .root) (builtin "de-DE") ∧
      address.LeavesOut other ∧
      ((builtin "de-DE").format address).Gives source (.fresh .root) "Berlin 10117" ∧
      ((builtin "de-DE").format other).Gives source (.fresh .root) "10117 Berlin" := by
  intro source address other
  have steady : source.Steady Builtin.load := Source.steady_gated Builtin.load
  have region : (Locale.ofTag "de-DE").region = some "DE" := by decide +kernel
  have used : (Store.fresh .root).Reaches source (Store.fresh .root) := .start
  have gives (address : Address) := Program.gives_of_reaches steady used
    fun view => format_faithful view (builtin "de-DE") address
  refine ⟨?forLocale, ⟨rfl, fun component => ?leaves⟩, ?empty, ?absent⟩
  case forLocale =>
    have made := Program.gives_of_reaches steady used
      fun view => forLocale_faithful view (Locale.ofTag "de-DE") defaultStyle
    rwa [eval_forLocale_builtin] at made
  case leaves => cases component <;> decide
  case empty =>
    have foreign : (builtin "de-DE").foreignTerritory? address = some "" :=
      (foreignTerritory?_of_empty rfl).mpr ⟨"DE", region, by decide +kernel⟩
    have style : (builtin "de-DE").style = defaultStyle := rfl
    have text : ((builtin "de-DE").format address).eval (View.ofAnswers Builtin.load) =
        "Berlin 10117" := by
      rw [eval_format_of_foreign _ foreign, textIn, eval_rulesForLocale_empty, style, layOut,
        template_generic]
      decide +kernel
    exact text ▸ gives address
  case absent =>
    have codeFirst := builtin_codeFirst (by decide : ("DE", 5) ∈ codeTerritories) region
    have latin : other.format = .latin := rfl
    have text : ((builtin "de-DE").format other).eval (View.ofAnswers Builtin.load) =
        "10117 Berlin" := by
      rw [format_of_home (foreignTerritory?_of_absent rfl), Program.eval, layOut, latin,
        template_codeFirst codeFirst rfl]
      decide +kernel
    exact text ▸ gives other

end Formatter

end Postal
