import Postal.Json.Decimal

namespace Postal

inductive Json where
  | null
  | bool (value : Bool)
  | integer (value : Int)
  | decimal (value : Decimal)
  | string (value : String)
  | array (items : List Json)
  | object (members : List (String × Json))
deriving Repr, Inhabited, BEq

namespace Json

def lookup? (members : List (String × Json)) (key : String) : Option Json :=
  members.foldl (fun found (name, value) => if name == key then some value else found) none

def insertMember (key : String) (value : Json) : List (String × Json) → List (String × Json)
  | [] => [(key, value)]
  | (name, other) :: members =>
    if key < name then (key, value) :: (name, other) :: members
    else if key = name then (key, value) :: members
    else (name, other) :: insertMember key value members

def sortMembers (members : List (String × Json)) : List (String × Json) :=
  members.foldl (fun sorted (key, value) => insertMember key value sorted) []

def ofMembers (members : List (String × Json)) : Json :=
  .object (sortMembers members)

mutual

def sorted : Json → Json
  | .array items => .array (sortedItems items)
  | .object members => .ofMembers (sortedMembers members)
  | value => value

def sortedItems : List Json → List Json
  | [] => []
  | item :: items => item.sorted :: sortedItems items

def sortedMembers : List (String × Json) → List (String × Json)
  | [] => []
  | (key, value) :: members => (key, value.sorted) :: sortedMembers members

end

def member? (value : Json) (key : String) : Option Json :=
  match value with
  | .object members => lookup? members key
  | _ => none

def text? : Json → Option String
  | .string value => some value
  | _ => none

def ofText? : Option String → Json
  | some value => .string value
  | none => .null

end Json

end Postal
