import Postal.Fragment.Extraction
import Postal.Store.Resolve

namespace Postal

structure Prepared where
  fragments : List (List Char)
  country : Option String
  countryCode : Option String
deriving DecidableEq, Repr

/-- The fragments of a text and the country that they name, or else the territory of the locale. -/
def prepare (text : List Char) (tables : List NameTable) (locale : Locale) : Prepared :=
  let fragments := splitFragments text
  match findCountry fragments tables with
  | some sighting =>
    ⟨sighting.cut fragments, some (String.ofList (sighting.text fragments)), some sighting.code⟩
  | none => ⟨fragments, none, locale.region⟩

namespace Prepared

def script (prepared : Prepared) (ruleset : Ruleset) : Script :=
  if ruleset.multiformat then detectScript prepared.fragments else .latin

def start (prepared : Prepared) (script : Script) : Address :=
  (({ format := script } : Address).set .country prepared.country).set .countryCode
    prepared.countryCode

def worksheet (prepared : Prepared) (ruleset : Ruleset) : Worksheet :=
  let script := prepared.script ruleset
  Worksheet.applyAll (ruleset.side script) script ⟨prepared.fragments, prepared.start script⟩
    (ruleset.rulesFor script)

def finish (prepared : Prepared) (ruleset : Ruleset) : Address :=
  let sheet := prepared.worksheet ruleset
  if sheet.fragments.isEmpty then sheet.address
  else
    let street := (ruleset.joinTextFor (prepared.script ruleset)).toList.intercalate sheet.fragments
    sheet.address.set .streetAddress (some (String.ofList street))

end Prepared

def isBlankValue (value : Option String) : Bool :=
  (cleanValue value).isNone

def needsLookup (fields : Address) : Bool :=
  isBlankValue fields.countryCode && ! isBlankValue fields.country

def codeFor? (tables : List NameTable) (name : String) : Option String :=
  tables.findSome? (·.codeFor? name)

/-- Separated components as an address: the code of the country is the given one, or else that of
the name of the country, or else that of the locale. -/
def resolveFields (fields : Address) (tables : List NameTable) (locale : Locale) : Address :=
  let address := fields.normalized
  match address.countryCode with
  | some _ => address
  | none =>
    address.set .countryCode ((address.country.bind (codeFor? tables)).or locale.region)

def parse (locale : Locale) : AddressInput → Program Address
  | .text text => do
    let tables ← countryTables locale
    let prepared := prepare text.toList tables locale
    let rules ← rulesForCode prepared.countryCode
    return prepared.finish rules.ruleset
  | .fields fields => do
    let tables ← if needsLookup fields then countryTables locale else pure []
    return resolveFields fields tables locale

def parseValue (locale : Locale) (value : Json) : Program (Except InputError Address) :=
  match AddressInput.ofJson value with
  | .error cause => return .error cause
  | .ok input => do return .ok (← parse locale input)

end Postal
