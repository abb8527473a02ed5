import Postal.Json.Basic

namespace Postal.Json

def hexCharacter (value : Nat) : Char :=
  if value < 10 then Char.ofNat (48 + value) else Char.ofNat (87 + value)

def escapeCharacter (c : Char) : List Char :=
  if c == '\"' then ['\\', '\"']
  else if c == '\\' then ['\\', '\\']
  else if c == '\n' then ['\\', 'n']
  else if c == '\r' then ['\\', 'r']
  else if c == '\t' then ['\\', 't']
  else if c == '\x08' then ['\\', 'b']
  else if c == '\x0c' then ['\\', 'f']
  else if c.toNat < 0x20 then
    ['\\', 'u', '0', '0', hexCharacter (c.toNat / 16), hexCharacter (c.toNat % 16)]
  else [c]

def quote (text : String) : List Char :=
  '\"' :: text.toList.flatMap escapeCharacter ++ ['\"']

def integerText (value : Int) : List Char :=
  if value < 0 then '-' :: decimalDigits value.natAbs else decimalDigits value.natAbs

def scalarText : Json → List Char
  | .null => "null".toList
  | .bool true => "true".toList
  | .bool false => "false".toList
  | .integer value => integerText value
  | .decimal value => value.scientific
  | .string value => quote value
  | .array _ | .object _ => []

mutual

def compact : Json → List Char
  | .array items => '[' :: compactItems items ++ [']']
  | .object members => '{' :: compactMembers members ++ ['}']
  | value => value.scalarText

def compactItems : List Json → List Char
  | [] => []
  | [item] => item.compact
  | item :: items => item.compact ++ ',' :: compactItems items

def compactMembers : List (String × Json) → List Char
  | [] => []
  | [(key, value)] => quote key ++ ':' :: value.compact
  | (key, value) :: members => quote key ++ ':' :: value.compact ++ ',' :: compactMembers members

end

def newLine (level : Nat) : List Char :=
  '\n' :: List.replicate (2 * level) ' '

mutual

def prettyAt (level : Nat) : Json → List Char
  | .array [] => ['[', ']']
  | .array items => '[' :: prettyItems (level + 1) items ++ newLine level ++ [']']
  | .object [] => ['{', '}']
  | .object members => '{' :: prettyMembers (level + 1) members ++ newLine level ++ ['}']
  | value => value.scalarText

def prettyItems (level : Nat) : List Json → List Char
  | [] => []
  | [item] => newLine level ++ item.prettyAt level
  | item :: items => newLine level ++ item.prettyAt level ++ ',' :: prettyItems level items

def prettyMembers (level : Nat) : List (String × Json) → List Char
  | [] => []
  | [(key, value)] => newLine level ++ quote key ++ ':' :: ' ' :: value.prettyAt level
  | (key, value) :: members =>
    newLine level ++ quote key ++ ':' :: ' ' :: value.prettyAt level ++
      ',' :: prettyMembers level members

end

def pretty (value : Json) : String :=
  String.ofList (value.prettyAt 0)

end Postal.Json
