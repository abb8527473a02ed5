import Postal.Builtin.Dataset
import Postal.Dataset.Layers
import Postal.Json.Shape

namespace Postal

structure LocaleSettings where
  defaultLocale : String := "en-US"
deriving DecidableEq, Repr

structure DataSettings where
  directories : List String := []
  usesBuiltin : Bool := true
deriving DecidableEq, Repr

structure FormatSettings where
  defaultStyle : String := "default"
deriving DecidableEq, Repr

structure Settings where
  locale : LocaleSettings := {}
  data : DataSettings := {}
  format : FormatSettings := {}
deriving DecidableEq, Repr

def readPath : Json → Except ShapeError String
  | .string path => .ok path
  | value => .error (.wrongType value "path string")

namespace LocaleSettings

def fields : List (Shape.Field LocaleSettings) :=
  [⟨"default_locale", fun group value =>
      (Shape.readText value).map ({ group with defaultLocale := · })⟩]

def read : Json → Except ShapeError LocaleSettings :=
  Shape.readRecord "LocaleConfig" fields {}

def toJson (group : LocaleSettings) : Json :=
  .object [("default_locale", .string group.defaultLocale)]

end LocaleSettings

namespace DataSettings

def fields : List (Shape.Field DataSettings) :=
  [⟨"data_dirs", fun group value =>
      (Shape.readList readPath value).map ({ group with directories := · })⟩,
   ⟨"use_embedded", fun group value =>
      (Shape.readBool value).map ({ group with usesBuiltin := · })⟩]

def read : Json → Except ShapeError DataSettings :=
  Shape.readRecord "DataConfig" fields {}

def toJson (group : DataSettings) : Json :=
  .object [("data_dirs", .array (group.directories.map .string)),
    ("use_embedded", .bool group.usesBuiltin)]

end DataSettings

namespace FormatSettings

def fields : List (Shape.Field FormatSettings) :=
  [⟨"default_style", fun group value =>
      (Shape.readText value).map ({ group with defaultStyle := · })⟩]

def read : Json → Except ShapeError FormatSettings :=
  Shape.readRecord "FormatConfig" fields {}

def toJson (group : FormatSettings) : Json :=
  .object [("default_style", .string group.defaultStyle)]

end FormatSettings

namespace Settings

def fields : List (Shape.Field Settings) :=
  [⟨"locale", fun settings value =>
      (LocaleSettings.read value).map ({ settings with locale := · })⟩,
   ⟨"data", fun settings value => (DataSettings.read value).map ({ settings with data := · })⟩,
   ⟨"format", fun settings value =>
      (FormatSettings.read value).map ({ settings with format := · })⟩]

def read : Json → Except ShapeError Settings :=
  Shape.readRecord "AddrConfig" fields {}

def toJson (settings : Settings) : Json :=
  .object [("locale", settings.locale.toJson), ("data", settings.data.toJson),
    ("format", settings.format.toJson)]

def text (settings : Settings) : String :=
  settings.toJson.pretty

end Settings

inductive SettingsError where
  | notJson (path : String) (cause : JsonError)
  | shape (path : String) (cause : ShapeError)
  | file (cause : FileError)
deriving Repr

namespace Settings

def selection : Json.Selection :=
  let among {σ : Type} (fields : List (Shape.Field σ)) : Json.Selection :=
    .fields (fields.map fun field => (field.name, .all))
  .fields [("locale", among LocaleSettings.fields), ("data", among DataSettings.fields),
    ("format", among FormatSettings.fields)]

/-- The settings that the text of a file gives. A setting that is repeated is an error, and anything
that is no setting does not count. -/
def ofText (path text : String) : Except SettingsError Settings :=
  match Json.readSelected selection text.toList with
  | .error cause => .error (.notJson path cause)
  | .ok value =>
    match read value with
    | .error cause => .error (.shape path cause)
    | .ok settings => .ok settings

variable {m : Type → Type} [Monad m]

def load (files : FileSystem m) (path : String) : m (Except SettingsError Settings) := do
  match ← files.read path with
  | .error cause => return .error (.file cause)
  | .ok text => return ofText path text

def save (files : FileSystem m) (path : String) (settings : Settings) :
    m (Except SettingsError Unit) := do
  match ← files.write path settings.text with
  | .error cause => return .error (.file cause)
  | .ok () => return .ok ()

def layers (files : FileSystem m) (settings : Settings) : List (Layer m) :=
  settings.data.directories.map (loadFile files) ++
    (if settings.data.usesBuiltin then [fun key => pure (Builtin.load key)] else [])

end Settings

inductive AssignError where
  | pathNotFound (key : String)
  | keyNotFound (key : String)
  | notSection
  | shape (cause : ShapeError)
deriving Repr

namespace Settings

def keyParts (key : String) : List String :=
  (splitWhere (· == '.') key.toList).map String.ofList

def lookup? (value : Json) : List String → Option Json
  | [] => some value
  | part :: parts => (value.member? part).bind (lookup? · parts)

def value? (settings : Settings) (key : String) : Option Json :=
  lookup? settings.toJson.sorted (keyParts key)

def replaceMember (key : String) (value : Json) (members : List (String × Json)) :
    List (String × Json) :=
  members.map fun (name, old) => (name, if name = key then value else old)

def assignIn (key : String) (new : Json) : List String → Json → Except AssignError Json
  | [], _ => .error (.keyNotFound key)
  | [part], .object members =>
    if (Json.lookup? members part).isSome then .ok (.object (replaceMember part new members))
    else .error (.keyNotFound key)
  | [_], _ => .error .notSection
  | part :: parts, value =>
    match value with
    | .object members =>
      match Json.lookup? members part with
      | none => .error (.pathNotFound key)
      | some inner =>
        (assignIn key new parts inner).map fun inner => .object (replaceMember part inner members)
    | _ => .error (.pathNotFound key)

def assign (settings : Settings) (key : String) (new : Json) : Except AssignError Settings := do
  let value ← assignIn key new (keyParts key) settings.toJson.sorted
  match read value.sorted with
  | .ok settings => return settings
  | .error cause => throw (.shape cause)

end Settings

def SettingsError.message? : SettingsError → Option String
  | .file cause => some ("I/O error: " ++ cause.message)
  | _ => none

def AssignError.message : AssignError → String
  | pathNotFound key => "Configuration path not found: " ++ key
  | keyNotFound key => "Configuration key not found: " ++ key
  | notSection => "Cannot set value at non-object path"
  | shape cause => cause.message

end Postal
