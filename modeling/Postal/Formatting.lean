import Postal.Locale.Region
import Postal.Store.Resolve
import Postal.Template
import Postal.Text.AsciiCase

namespace Postal

structure Formatter where
  locale : Locale
  style : String
  rules : Governing
deriving DecidableEq, Repr

def defaultStyle : String := "default"

namespace Formatter

def forLocale (locale : Locale) (style : String) : Program Formatter := do
  let rules ← rulesForLocale locale
  return ⟨locale, style, rules⟩

/-- The template for a script: that of the style or, if there is no such style, of the default
style; without one for the script, that of the generic rules. -/
def template (formatter : Formatter) (script : Script) : String :=
  let ruleset := formatter.rules.ruleset
  let own := ((ruleset.style? formatter.style).or (ruleset.style? defaultStyle)).bind (·.get script)
  (own.or ((Ruleset.generic.style? defaultStyle).bind (·.get script))).getD ""

/-- The territory of an address if the address is to be handed on to the formatter of that
territory: the formatter's own locale has the region of a real territory, which is another one. -/
def foreignTerritory? (formatter : Formatter) (address : Address) : Option String :=
  match address.countryCode, formatter.locale.region with
  | some code, some own =>
    if isRegionCode own && ! equalIgnoringAsciiCase code own then some code else none
  | _, _ => none

def layOut (formatter : Formatter) (address : Address) : String :=
  String.ofList (render (formatter.template address.format).toList address)

theorem countryCode_of_foreignTerritory? {formatter : Formatter} {address : Address} {code : String}
    (foreign : formatter.foreignTerritory? address = some code) :
    address.countryCode = some code := by
  unfold foreignTerritory? at foreign
  split at foreign
  · rename_i given own there region
    split at foreign
    · rw [there, foreign]
    · cases foreign
  · cases foreign

theorem foreignTerritory?_ofRegion {formatter : Formatter} {address : Address} {code : String}
    (locale : formatter.locale = Locale.ofRegion code) (same : address.countryCode = some code) :
    formatter.foreignTerritory? address = none := by
  simp [foreignTerritory?, locale, same, Locale.ofRegion, equalIgnoringAsciiCase_toUpper]

/-- The text of an address. An address in another territory is handed on to the formatter of that
territory, in the same style. -/
def format (formatter : Formatter) (address : Address) : Program String :=
  match _foreign : formatter.foreignTerritory? address with
  | none => return formatter.layOut address
  | some code => do
    let rules ← rulesForLocale (Locale.ofRegion code)
    format ⟨Locale.ofRegion code, formatter.style, rules⟩ address
termination_by (formatter.foreignTerritory? address).toList.length
decreasing_by
  rw [_foreign, foreignTerritory?_ofRegion rfl (countryCode_of_foreignTerritory? _foreign)]
  exact Nat.zero_lt_one

end Formatter

end Postal
