import Postal.Text.Visible

namespace Postal

inductive ShapeError where
  | wrongType (found : Json) (expected : String)
  | wrongValue (found : Json) (expected : String)
  | unknownVariant (name : String) (known : List String)
  | noSingleKey
  | noShape (type : String)
  | missingField (name : String)
  | repeatedField (name : String)
  | tooLong (length : Nat)
deriving Repr

def Json.describe : Json → String
  | .null => "null"
  | .bool true => "boolean `true`"
  | .bool false => "boolean `false`"
  | .integer value => "integer `" ++ String.ofList (integerText value) ++ "`"
  | .decimal value => "floating point `" ++ String.ofList value.scientific ++ "`"
  | .string value => "string " ++ visibleText value
  | .array _ => "sequence"
  | .object _ => "map"

def listNames : List String → String
  | [] => "none"
  | [a] => "`" ++ a ++ "`"
  | [a, b] => "`" ++ a ++ "` or `" ++ b ++ "`"
  | names => "one of " ++ ", ".intercalate (names.map fun name => "`" ++ name ++ "`")

def ShapeError.message : ShapeError → String
  | wrongType found expected =>
    "invalid type: " ++ found.describe ++ ", expected " ++ expected
  | wrongValue found expected =>
    "invalid value: " ++ found.describe ++ ", expected " ++ expected
  | unknownVariant name known =>
    "unknown variant `" ++ name ++ "`, expected " ++ listNames known
  | noSingleKey => "invalid value: map, expected map with a single key"
  | noShape type => "data did not match any variant of untagged enum " ++ type
  | missingField name => "missing field `" ++ name ++ "`"
  | repeatedField name => "duplicate field `" ++ name ++ "`"
  | tooLong length =>
    "invalid length " ++ toString length ++ ", expected fewer elements in array"

namespace Shape

def readText : Json → Except ShapeError String
  | .string value => .ok value
  | value => .error (.wrongType value "a string")

def readBool : Json → Except ShapeError Bool
  | .bool value => .ok value
  | value => .error (.wrongType value "a boolean")

def readNatural : Json → Except ShapeError Nat
  | .integer value =>
    if value < 0 then .error (.wrongValue (.integer value) "usize") else .ok value.toNat
  | value => .error (.wrongType value "usize")

def readOptional {α : Type} (read : Json → Except ShapeError α) :
    Json → Except ShapeError (Option α)
  | .null => .ok none
  | value => (read value).map some

def readList {α : Type} (read : Json → Except ShapeError α) : Json → Except ShapeError (List α)
  | .array items => items.mapM read
  | value => .error (.wrongType value "a sequence")

def readTable {α : Type} (read : Json → Except ShapeError α) :
    Json → Except ShapeError (List (String × α))
  | .object members => members.mapM fun (key, value) => (read value).map (key, ·)
  | value => .error (.wrongType value "a map")

def variantNamed {α : Type} (variants : List (String × α)) (other : Option α) (name : String) :
    Except ShapeError α :=
  match variants.lookup name, other with
  | some variant, _ => .ok variant
  | none, some variant => .ok variant
  | none, none => .error (.unknownVariant name (variants.map (·.1)))

def readVariant {α : Type} (variants : List (String × α)) (other : Option α) :
    Json → Except ShapeError α
  | .string name => variantNamed variants other name
  | .object [(name, value)] => do
    let variant ← variantNamed variants other name
    match value with
    | .null => return variant
    | value => throw (.wrongType value "unit")
  | .object _ => .error .noSingleKey
  | value => .error (.wrongType value "string or map")

structure Field (σ : Type) where
  name : String
  read : σ → Json → Except ShapeError σ

def readMembers {σ : Type} (fields : List (Field σ)) (seen : List String) (record : σ) :
    List (String × Json) → Except ShapeError σ
  | [] => .ok record
  | (key, value) :: members =>
    match fields.find? (·.name == key) with
    | none => readMembers fields seen record members
    | some field =>
      if seen.contains key then .error (.repeatedField key)
      else do
        let record ← field.read record value
        readMembers fields (key :: seen) record members

def readItems {σ : Type} (length : Nat) (record : σ) :
    List (Field σ) → List Json → Except ShapeError σ
  | _, [] => .ok record
  | [], _ :: _ => .error (.tooLong length)
  | field :: fields, item :: items => do
    let record ← field.read record item
    readItems length record fields items

/-- A record, from an object or from an array of its fields in order. Fields that are left out keep
their values in `initial`. -/
def readRecord {σ : Type} (type : String) (fields : List (Field σ)) (initial : σ) :
    Json → Except ShapeError σ
  | .object members => readMembers fields [] initial members
  | .array items => readItems items.length initial fields items
  | value => .error (.wrongType value ("struct " ++ type))

end Shape

end Postal
