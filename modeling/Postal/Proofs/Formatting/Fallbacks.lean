import Postal.Formatting

namespace Postal

inductive Scripted.Holds {α : Type} : Scripted α → Script → α → Prop
  | uniform (value : α) (script : Script) : Holds (.uniform value) script value
  | latin (value : α) (asian : Option α) : Holds (.byScript (some value) asian) .latin value
  | asian (latin : Option α) (value : α) : Holds (.byScript latin (some value)) .asian value
  | inPlace (value : α) : Holds (.byScript (some value) none) .asian value

theorem Scripted.get_eq_some_iff {α : Type} {values : Scripted α} {script : Script} {value : α} :
    values.get script = some value ↔ values.Holds script value := by
  constructor
  · intro given
    cases values with
    | uniform shared =>
      cases given
      exact .uniform value script
    | byScript latin asian =>
      cases script with
      | latin =>
        obtain rfl : latin = some value := given
        exact .latin value asian
      | asian =>
        cases asian with
        | some own =>
          cases given
          exact .asian latin value
        | none =>
          obtain rfl : latin = some value := given
          exact .inPlace value
  · intro holds
    cases holds <;> rfl

namespace Ruleset

def template? (ruleset : Ruleset) (style : String) (script : Script) : Option String :=
  (ruleset.style? style).bind (·.get script)

def Offers (ruleset : Ruleset) (style : String) (script : Script) (template : String) : Prop :=
  ∃ templates, ruleset.style? style = some templates ∧ templates.Holds script template

theorem offers_iff {ruleset : Ruleset} {style : String} {script : Script} {template : String} :
    ruleset.Offers style script template ↔ ruleset.template? style script = some template := by
  rw [template?, Option.bind_eq_some_iff]
  simp only [Offers, Scripted.get_eq_some_iff]

theorem not_offers_iff {ruleset : Ruleset} {style : String} {script : Script} :
    (∀ template, ¬ ruleset.Offers style script template) ↔
      ruleset.template? style script = none := by
  simp only [offers_iff, Option.eq_none_iff_forall_ne_some, ne_eq]

theorem formats_of_compile {spec : String} {data : RulesetData} {ruleset : Ruleset}
    (h : compile spec data = .ok ruleset) : ruleset.formats = data.formats := by
  unfold compile at h
  split at h
  · cases h
  · cases compiled : (data.rules.getD (.uniform [])).mapM fun rules => rules.mapM Rule.compile with
    | error cause =>
      rw [compiled] at h
      cases h
    | ok rules =>
      rw [compiled] at h
      cases h
      rfl

theorem formats_generic : generic.formats = genericData.formats := by
  rw [generic]
  cases compiled : compile Locale.rootSpec genericData with
  | ok ruleset => exact formats_of_compile compiled
  | error cause => rfl

def genericTemplate : String :=
  "\x7bstreetAddress\x7d\n\x7blocality\x7d \x7bregion\x7d \x7bpostalCode\x7d\n\x7bcountry\x7d"

theorem template?_generic (script : Script) :
    generic.template? defaultStyle script = some genericTemplate := by
  rw [template?, style?, formats_generic]
  rfl

theorem offers_generic_iff {script : Script} {template : String} :
    generic.Offers defaultStyle script template ↔ genericTemplate = template := by
  rw [offers_iff, template?_generic, Option.some_inj]

end Ruleset

namespace Formatter

/-- The template that comes first for a script: that of the style, that of the default style, or the
generic one. -/
inductive Chooses (formatter : Formatter) (script : Script) (template : String) : Prop
  | own (offered : formatter.rules.ruleset.Offers formatter.style script template)
  | default (noOwn : ∀ other, ¬ formatter.rules.ruleset.Offers formatter.style script other)
      (offered : formatter.rules.ruleset.Offers defaultStyle script template)
  | generic (noOwn : ∀ other, ¬ formatter.rules.ruleset.Offers formatter.style script other)
      (noDefault : ∀ other, ¬ formatter.rules.ruleset.Offers defaultStyle script other)
      (offered : Ruleset.generic.Offers defaultStyle script template)

/-- The style is known but has no template for a script, for which the default style has one. -/
structure PassesOver (formatter : Formatter) (script : Script) (template : String) : Prop where
  known : ∃ templates, formatter.rules.ruleset.style? formatter.style = some templates
  noOwn : ∀ other, ¬ formatter.rules.ruleset.Offers formatter.style script other
  offered : formatter.rules.ruleset.Offers defaultStyle script template

variable {formatter : Formatter} {script : Script}

theorem chooses_iff {template : String} :
    formatter.Chooses script template ↔
      ((formatter.rules.ruleset.template? formatter.style script).or
        (formatter.rules.ruleset.template? defaultStyle script)).getD Ruleset.genericTemplate =
          template := by
  constructor
  · intro chooses
    cases chooses with
    | own offered => rw [Ruleset.offers_iff.mp offered, Option.some_or, Option.getD_some]
    | default noOwn offered =>
      rw [Ruleset.not_offers_iff.mp noOwn, Option.none_or, Ruleset.offers_iff.mp offered,
        Option.getD_some]
    | generic noOwn noDefault offered =>
      rw [Ruleset.not_offers_iff.mp noOwn, Option.none_or, Ruleset.not_offers_iff.mp noDefault]
      exact Ruleset.offers_generic_iff.mp offered
  · intro first
    cases own : formatter.rules.ruleset.template? formatter.style script with
    | some given =>
      rw [own] at first
      exact .own (Ruleset.offers_iff.mpr (own.trans (congrArg some first)))
    | none =>
      rw [own, Option.none_or] at first
      have noOwn := Ruleset.not_offers_iff.mpr own
      cases default : formatter.rules.ruleset.template? defaultStyle script with
      | some given =>
        rw [default] at first
        exact .default noOwn (Ruleset.offers_iff.mpr (default.trans (congrArg some first)))
      | none =>
        rw [default] at first
        exact .generic noOwn (Ruleset.not_offers_iff.mpr default)
          (Ruleset.offers_generic_iff.mpr first)

theorem template_eq :
    formatter.template script =
      (((formatter.rules.ruleset.style? formatter.style).or
        (formatter.rules.ruleset.style? defaultStyle)).bind (·.get script)).getD
          Ruleset.genericTemplate := by
  have generic : (Ruleset.generic.style? defaultStyle).bind (·.get script) =
      some Ruleset.genericTemplate :=
    Ruleset.template?_generic script
  rw [template, generic, Option.or_some, Option.getD_some]

theorem Chooses.unique {template other : String} (first : formatter.Chooses script template)
    (first' : formatter.Chooses script other) : template = other :=
  (chooses_iff.mp first).symm.trans (chooses_iff.mp first')

theorem PassesOver.chooses {template : String} (passes : formatter.PassesOver script template) :
    formatter.Chooses script template :=
  .default passes.noOwn passes.offered

theorem PassesOver.template_eq {template : String} (passes : formatter.PassesOver script template) :
    formatter.template script = Ruleset.genericTemplate := by
  obtain ⟨⟨templates, known⟩, noOwn, -⟩ := passes
  have missing := Ruleset.not_offers_iff.mp noOwn
  rw [Ruleset.template?, known, Option.bind_some] at missing
  rw [Formatter.template_eq, known, Option.some_or, Option.bind_some, missing, Option.getD_none]

theorem chooses_template (keeps : ∀ template, ¬ formatter.PassesOver script template) :
    formatter.Chooses script (formatter.template script) := by
  rw [chooses_iff, template_eq]
  cases known : formatter.rules.ruleset.style? formatter.style with
  | none =>
    have missing : formatter.rules.ruleset.template? formatter.style script = none := by
      rw [Ruleset.template?, known, Option.bind_none]
    rw [missing, Option.none_or, Option.none_or, Ruleset.template?]
  | some templates =>
    have own : formatter.rules.ruleset.template? formatter.style script = templates.get script := by
      rw [Ruleset.template?, known, Option.bind_some]
    rw [own, Option.some_or, Option.bind_some]
    cases given : templates.get script with
    | some template => rfl
    | none =>
      -- Nothing is passed over only if the default style has no template either.
      have missing : formatter.rules.ruleset.template? defaultStyle script = none := by
        refine Ruleset.not_offers_iff.mp fun template offered => keeps template ?_
        exact ⟨⟨templates, known⟩, Ruleset.not_offers_iff.mpr (own.trans given), offered⟩
      rw [Option.none_or, missing]

variable (formatter script)

/-- There is always one template that comes first, and a formatter uses it, unless its style passes
over a template of the default style: then it uses the generic one. -/
theorem chooses_template_iff :
    (∃ template, formatter.Chooses script template ∧
      ∀ other, formatter.Chooses script other → other = template) ∧
    (formatter.Chooses script (formatter.template script) ↔
      ∀ template, formatter.PassesOver script template →
        Ruleset.generic.Offers defaultStyle script template) ∧
    ∀ template, formatter.PassesOver script template →
      Ruleset.generic.Offers defaultStyle script (formatter.template script) := by
  refine ⟨⟨_, chooses_iff.mpr rfl, fun other first => (chooses_iff.mp first).symm⟩, ⟨?_, ?_⟩, ?_⟩
  · intro first template passes
    rw [← first.unique passes.chooses]
    exact Ruleset.offers_generic_iff.mpr passes.template_eq.symm
  · intro generic
    by_cases passing : ∃ template, formatter.PassesOver script template
    · obtain ⟨template, passes⟩ := passing
      rw [passes.template_eq, Ruleset.offers_generic_iff.mp (generic template passes)]
      exact passes.chooses
    · exact chooses_template (not_exists.mp passing)
  · intro template passes
    exact Ruleset.offers_generic_iff.mpr passes.template_eq.symm

theorem template_of_asian_style :
    let value : Json := .object [("formats", .object
      [("default", .string "\x7bpostalCode\x7d \x7blocality\x7d"),
        ("short", .object [("asian", .string "\x7blocality\x7d")])])]
    ∃ ruleset, Ruleset.ofJson "und-US" value = .ok ruleset ∧
      let formatter : Formatter := ⟨Locale.ofRegion "US", "short", .territory ruleset⟩
      formatter.Chooses .latin "\x7bpostalCode\x7d \x7blocality\x7d" ∧
        formatter.template .latin = Ruleset.genericTemplate ∧
          ¬ formatter.Chooses .latin (formatter.template .latin) := by
  intro value
  refine ⟨_, rfl, ?_⟩
  intro formatter
  have passes : formatter.PassesOver .latin "\x7bpostalCode\x7d \x7blocality\x7d" :=
    ⟨⟨_, rfl⟩, Ruleset.not_offers_iff.mpr rfl, Ruleset.offers_iff.mpr rfl⟩
  refine ⟨passes.chooses, passes.template_eq, fun first => ?_⟩
  have same := first.unique passes.chooses
  rw [passes.template_eq] at same
  revert same
  decide

end Formatter

end Postal
