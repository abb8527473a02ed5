import Postal.Address.Basic
import Postal.Json.Shape

namespace Postal

def Script.variants : List (String × Script) :=
  [("latin", .latin), ("asian", .asian)]

def Script.read : Json → Except ShapeError Script :=
  Shape.readVariant variants none

namespace Address

def componentField (component : Component) : Shape.Field Address where
  name := component.name
  read address value :=
    (Shape.readOptional Shape.readText value).map (address.put component)

def fields : List (Shape.Field Address) :=
  Component.all.map componentField ++
    [⟨"format", fun address value => (Script.read value).map ({ address with format := · })⟩]

def ofMembers (members : List (String × Json)) : Except ShapeError Address :=
  Shape.readMembers fields [] {} members

def toMembers (address : Address) : List (String × Json) :=
  (Component.all.filterMap fun component =>
    (address.get component).map fun value => (component.name, .string value)) ++
    [("format", .string address.format.name)]

def toJson (address : Address) : Json :=
  .object address.toMembers

end Address

inductive AddressInput where
  | text (text : String)
  | fields (address : Address)
deriving DecidableEq, Repr

inductive InputError where
  | badFields (cause : ShapeError)
  | neither (found : Json)
deriving Repr

def Json.kind : Json → String
  | .null => "null"
  | .bool _ => "a boolean"
  | .integer _ | .decimal _ => "a number"
  | .string _ => "a string"
  | .array _ => "an array"
  | .object _ => "an object"

def InputError.message : InputError → String
  | badFields cause => "invalid argument: bad address fields: " ++ cause.message
  | neither found =>
    "invalid argument: expected a string or an object, got " ++ found.kind

def AddressInput.ofJson : Json → Except InputError AddressInput
  | .string value => .ok (.text value)
  | .object members =>
    match Address.ofMembers members with
    | .ok address => .ok (.fields address)
    | .error cause => .error (.badFields cause)
  | value => .error (.neither value)

end Postal
