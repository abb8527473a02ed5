import Postal.Formatting

namespace Postal

inductive Constraint where
  | pattern (source : String)
  | choices (options : List NamedCode)
deriving DecidableEq, Repr

structure FormField where
  component : String
  label : String
  constraint : Option Constraint
deriving DecidableEq, Repr

structure FormSources where
  ruleset : Ruleset
  script : Script
  template : String
  labels : Option Json
  countries : Option NameTable
  regions : Option Json
  territory : Option String

namespace NamedCode

def ofJson? : Json → Option NamedCode
  | .array [.string code, .string name] => some ⟨name, code⟩
  | .object members => do
    let code ← (Json.lookup? members "code").bind Json.text?
    let name ← (Json.lookup? members "name").bind Json.text?
    return ⟨name, code⟩
  | _ => none

def listOfJson? : Json → Option (List NamedCode)
  | .array items => items.mapM ofJson?
  | _ => none

end NamedCode

namespace FormSources

def label (sources : FormSources) (name : String) : String :=
  match sources.ruleset.label? name with
  | none => name
  | some label => ((sources.labels.bind (·.member? label)).bind Json.text?).getD label

def regionChoices? (sources : FormSources) : Option (List NamedCode) := do
  NamedCode.listOfJson? (← (← sources.regions).member? (← sources.territory))

def pattern? (sources : FormSources) (name : String) : Option Constraint := do
  let rule ← sources.ruleset.rule? sources.script name
  return .pattern (← (← rule.matcher).source?)

def constraint? (sources : FormSources) (name : String) : Option Constraint :=
  if name = Component.country.name then
    sources.countries.map fun table => .choices table.choices
  else if name = Component.region.name then
    (sources.regionChoices?.map .choices).or (sources.pattern? name)
  else sources.pattern? name

def field (sources : FormSources) (name : String) : FormField :=
  ⟨name, sources.label name, sources.constraint? name⟩

def rows (sources : FormSources) : List (List FormField) :=
  let lines := splitWhere (· == '\n') sources.template.toList
  (lines.map fun line => (placeholderNames line).map sources.field).filter (! ·.isEmpty)

end FormSources

namespace Formatter

def labelLocale (formatter : Formatter) (display : Option Locale) : Locale :=
  match display with
  | some display => formatter.locale.withLanguageOf display
  | none => formatter.locale

def formScript (formatter : Formatter) : Script :=
  if formatter.rules.ruleset.multiformat && formatter.locale.isAsian then .asian else .latin

def describe (formatter : Formatter) (display : Option Locale) :
    Program (Option (List (List FormField))) := do
  let locale := formatter.labelLocale display
  match ← resolve DataKey.regionNames locale with
  | .error _ => return none
  | .ok regions =>
    match ← resolve DataKey.addressLabels locale with
    | .error _ => return none
    | .ok labels =>
      match ← resolve DataKey.countryNames locale with
      | .error _ => return none
      | .ok found =>
        let countries ← namesFrom (.ok found)
        let sources : FormSources := {
          ruleset := formatter.rules.ruleset
          script := formatter.formScript
          template := formatter.template formatter.formScript
          labels := labels.map (·.value)
          countries := countries.map (·.value)
          regions := regions.map (·.value)
          territory := locale.region }
        return some sources.rows

end Formatter

end Postal
