import Postal.Builtin.CountryNames
import Postal.Builtin.Labels
import Postal.Builtin.Territories
import Postal.Country.Names
import Postal.Locale.Basic

namespace Postal.Builtin

def value? (key : DataKey) : Option Json :=
  if key.basename = DataKey.address then
    Territories.byRegion.findSome? fun (region, value) =>
      if key.spec = (Locale.ofRegion region).spec then some value else none
  else if key.basename = DataKey.countryNames then CountryNames.byLanguage.lookup key.spec
  else if key.basename = DataKey.regionNames then Regions.byLanguage.lookup key.spec
  else if key.basename = DataKey.addressLabels then Labels.byLanguage.lookup key.spec
  else none

def load (key : DataKey) : Outcome :=
  .ok (value? key)

def nativeNames : NameTable :=
  .ofPairs (CountryNames.nativeNames.map fun (name, code) => ⟨name, code⟩)

end Postal.Builtin
