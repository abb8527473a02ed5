import Postal.Text.Blank

namespace Postal

inductive Script where
  | latin
  | asian
deriving DecidableEq, Repr, Inhabited

def Script.name : Script → String
  | latin => "latin"
  | asian => "asian"

inductive Component where
  | streetAddress
  | locality
  | region
  | postalCode
  | postOffice
  | country
  | countryCode
deriving DecidableEq, Repr, Inhabited

namespace Component

def all : List Component :=
  [streetAddress, locality, region, postalCode, postOffice, country, countryCode]

def name : Component → String
  | streetAddress => "streetAddress"
  | locality => "locality"
  | region => "region"
  | postalCode => "postalCode"
  | postOffice => "postOffice"
  | country => "country"
  | countryCode => "countryCode"

def named? (name : String) : Option Component :=
  all.find? (·.name == name)

theorem named?_name (component : Component) : named? component.name = some component := by
  cases component <;> rfl

theorem mem_all (component : Component) : component ∈ all := by
  cases component <;> simp [all]

end Component

structure Address where
  streetAddress : Option String := none
  locality : Option String := none
  region : Option String := none
  postalCode : Option String := none
  postOffice : Option String := none
  country : Option String := none
  countryCode : Option String := none
  format : Script := .latin
deriving DecidableEq, Repr, Inhabited

def trimText (text : String) : String :=
  String.ofList (trim text.toList)

def cleanValue (value : Option String) : Option String :=
  (value.map trimText).filter (! ·.isEmpty)

namespace Address

def get (address : Address) : Component → Option String
  | .streetAddress => address.streetAddress
  | .locality => address.locality
  | .region => address.region
  | .postalCode => address.postalCode
  | .postOffice => address.postOffice
  | .country => address.country
  | .countryCode => address.countryCode

def put (address : Address) (component : Component) (value : Option String) : Address :=
  match component with
  | .streetAddress => { address with streetAddress := value }
  | .locality => { address with locality := value }
  | .region => { address with region := value }
  | .postalCode => { address with postalCode := value }
  | .postOffice => { address with postOffice := value }
  | .country => { address with country := value }
  | .countryCode => { address with countryCode := value }

def set (address : Address) (component : Component) (value : Option String) : Address :=
  address.put component (cleanValue value)

def getNamed (address : Address) (name : String) : Option String :=
  (Component.named? name).bind address.get

def normalized (address : Address) : Address :=
  Component.all.foldl (fun result component => result.set component (address.get component))
    { format := address.format }

def isEmpty (address : Address) : Bool :=
  Component.all.all fun component => (address.get component).isNone

@[simp] theorem get_put_self (address : Address) (component : Component) (value : Option String) :
    (address.put component value).get component = value := by
  cases component <;> rfl

theorem get_put_of_ne (address : Address) {component other : Component} (value : Option String)
    (h : other ≠ component) : (address.put component value).get other = address.get other := by
  cases component <;> cases other <;> first | rfl | exact absurd rfl h

@[simp] theorem format_put (address : Address) (component : Component) (value : Option String) :
    (address.put component value).format = address.format := by
  cases component <;> rfl

@[simp] theorem get_set_self (address : Address) (component : Component) (value : Option String) :
    (address.set component value).get component = cleanValue value :=
  get_put_self ..

theorem get_set_of_ne (address : Address) {component other : Component} (value : Option String)
    (h : other ≠ component) : (address.set component value).get other = address.get other :=
  get_put_of_ne _ _ h

@[simp] theorem format_set (address : Address) (component : Component) (value : Option String) :
    (address.set component value).format = address.format :=
  format_put ..

end Address

end Postal
