import Postal.Json.Basic

namespace Postal.Builtin

def texts (members : List (String × String)) : Json :=
  .object (members.map fun (key, text) => (key, .string text))

def template (text : String) : String :=
  String.ofList (text.toList.map fun c => if c = '<' then '{' else if c = '>' then '}' else c)

def templates (members : List (String × String)) : Json :=
  texts (members.map fun (key, text) => (key, template text))

def textList (items : List String) : Json :=
  .array (items.map .string)

def patternRule (name line pattern : String) : Json :=
  texts [("line", line), ("name", name), ("pattern", pattern)]

def literalRule (name line : String) (items : List String) : Json :=
  .object [("line", .string line), ("name", .string name), ("pattern", textList items)]

def choiceList (choices : List (String × String)) : Json :=
  .array (choices.map fun (code, name) => texts [("code", code), ("name", name)])

def withMark (generated : Bool) (members : List (String × String)) : Json :=
  Json.ofMembers (("generated", .bool generated) ::
    members.map fun (key, text) => (key, .string text))

end Postal.Builtin
