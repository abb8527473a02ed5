import Postal.Command.Basic
import Postal.Form
import Postal.Parsing
import Postal.Settings
import Postal.Store.Basic

namespace Postal

/-- What commands need of the system on which they run. -/
structure System (m : Type → Type) where
  files : FileSystem m
  readInput : m (Except FileError String)
  settingsPath : String

inductive CommandError where
  | settingsNotFound (path : String)
  | inputNotFound (path : String)
  | settings (cause : SettingsError)
  | file (cause : FileError)
  | notJson (cause : JsonError)
  | input (cause : InputError)
  | noForm (locale : String)
  | settingsExist (path : String)
  | keyNotFound (key : String)
  | assign (cause : AssignError)
deriving Repr

def CommandError.message? : CommandError → Option String
  | settingsNotFound path => some ("Config file not found: " ++ path)
  | inputNotFound path => some ("Input file not found: " ++ path)
  | settings cause => cause.message?
  | file cause => some cause.message
  | notJson _ => none
  | input cause => some cause.message
  | noForm locale => some ("Locale data for " ++ locale ++ " could not be loaded")
  | settingsExist path =>
    some ("Config file already exists at " ++ path ++ ". Use --force to overwrite.")
  | keyNotFound key => some ("Configuration key not found: " ++ key)
  | assign cause => some cause.message

def Address.toLines (address : Address) : List String :=
  Component.all.filterMap (fun component =>
    (address.get component).map fun value => component.name ++ ": " ++ value) ++
    ["format: " ++ address.format.name]

namespace FormField

def toJson (field : FormField) : Json :=
  .object ([("component", Json.string field.component), ("label", .string field.label)] ++
    (field.constraint.map fun constraint => ("constraint", match constraint with
      | .pattern source => Json.string source
      | .choices options => .array (options.map fun choice =>
        .object [("code", .string choice.code), ("name", .string choice.name)]))).toList)

def padTo (width : Nat) (text : String) : String :=
  text ++ String.ofList (List.replicate (width - text.length) ' ')

def constraintText (field : FormField) : String :=
  match field.constraint with
  | some (.pattern source) => "pattern " ++ source
  | some (.choices options) => toString options.length ++ " choices"
  | none => "free text"

def toLine (field : FormField) : String :=
  "  " ++ padTo 14 field.component ++ " " ++ padTo 24 field.label ++ " " ++ field.constraintText

end FormField

def formLines (number : Nat) : List (List FormField) → List String
  | [] => []
  | row :: rows =>
    ("Line " ++ toString number) :: row.map FormField.toLine ++ formLines (number + 1) rows

def joinLines (lines : List String) : String :=
  String.join (lines.map (· ++ "\n"))

def printJson (value : Json) : String :=
  value.pretty ++ "\n"

variable {m : Type → Type} [Monad m]

namespace System

def readText (system : System m) (path : String) : ExceptT CommandError m String := do
  match ← (system.files.read path : m _) with
  | .ok text => return text
  | .error cause => throw (.file cause)

def writeText (system : System m) (path text : String) : ExceptT CommandError m Unit := do
  match ← (system.files.write path text : m _) with
  | .ok () => return ()
  | .error cause => throw (.file cause)

def holds (system : System m) (path : String) : ExceptT CommandError m Bool :=
  ExceptT.lift (system.files.holds path)

def makeParent (system : System m) (path : String) : ExceptT CommandError m Unit := do
  match parentPath? path with
  | none => return ()
  | some parent =>
    match ← (system.files.makeDirectories parent : m _) with
    | .ok () => return ()
    | .error cause => throw (.file cause)

def loadSettings (system : System m) (path : String) : ExceptT CommandError m Settings := do
  match ← (Settings.load system.files path : m _) with
  | .ok settings => return settings
  | .error cause => throw (.settings cause)

def saveSettings (system : System m) (path : String) (settings : Settings) :
    ExceptT CommandError m Unit := do
  match ← (settings.save system.files path : m _) with
  | .ok () => return ()
  | .error cause => throw (.settings cause)

def settingsOrDefault (system : System m) (path : String) : ExceptT CommandError m Settings := do
  if ← system.holds path then system.loadSettings path else return {}

def addressText (system : System m) (source : TextSource) : ExceptT CommandError m String := do
  match source.argument, source.file with
  | some text, _ => return text
  | none, some path =>
    if ← system.holds path then system.readText path else throw (.inputNotFound path)
  | none, none =>
    match ← (system.readInput : m _) with
    | .ok text => return text
    | .error cause => throw (.file cause)

/-- Runs a program on a fresh store over the sources that the settings name. -/
def answer {α : Type} (system : System m) (settings : Settings) (program : Program α) :
    ExceptT CommandError m α := do
  let source : Source m :=
    { load := loadLayers (settings.layers system.files), advance := fun _ => pure none }
  let (value, _) ← (program.run source {} : m _)
  return value

end System

/-- What an address is made from: a text that starts with a brace holds components. -/
def addressInput (text : String) : Except CommandError AddressInput :=
  let trimmed := trimStart text.toList
  if trimmed.head? = some '{' then
    match Json.read trimmed with
    | .error cause => .error (.notJson cause)
    | .ok value =>
      match AddressInput.ofJson value with
      | .error cause => .error (.input cause)
      | .ok input => .ok input
  else .ok (.text text)

namespace SettingsCommand

def run (system : System m) (path : String) : SettingsCommand → ExceptT CommandError m String
  | .view => do
    let settings ← system.settingsOrDefault path
    return printJson settings.toJson
  | .create output force => do
    let target := output.getD path
    if (← system.holds target) && ! force then throw (.settingsExist target)
    system.makeParent target
    system.saveSettings target {}
    return "✓ Created configuration file at " ++ target ++ "\n"
  | .get key => do
    let settings ← system.settingsOrDefault path
    match settings.value? key with
    | none => throw (.keyNotFound key)
    | some value => return printJson value
  | .set key text => do
    let settings ← system.settingsOrDefault path
    let value := match Json.read text.toList with
      | .ok value => value
      | .error _ => .string text
    match settings.assign key value with
    | .error cause => throw (.assign cause)
    | .ok changed =>
      system.makeParent path
      system.saveSettings path changed
      return "✓ Set " ++ key ++ " = " ++ String.ofList value.compact ++ "\n"
  | .path => do
    let first := "Configuration file: " ++ path
    if ← system.holds path then return joinLines [first, "Status: exists"]
    else
      return joinLines [first, "Status: not created", "",
        "Run 'addrfmt config init' to create a configuration file."]

end SettingsCommand

namespace Command

def settings (system : System m) (command : Command) : ExceptT CommandError m Settings := do
  let path := command.settingsPath.getD system.settingsPath
  let settings ←
    if ← system.holds path then system.loadSettings path
    else if command.settingsPath.isSome then throw (.settingsNotFound path)
    else pure {}
  let directories := command.dataDirectories ++ settings.data.directories
  return { settings with data := { settings.data with directories } }

def run (system : System m) (command : Command) : ExceptT CommandError m String := do
  match command.action with
  | .parse source locale output asText =>
    let settings ← command.settings system
    let text ← system.addressText source
    let tag := locale.getD settings.locale.defaultLocale
    let address ← system.answer settings (parse (Locale.ofTag tag) (.text text))
    let shown := if asText then "\n".intercalate address.toLines else address.toJson.pretty
    match output with
    | none => return shown ++ "\n"
    | some path =>
      system.writeText path shown
      return "✓ Output written to " ++ path ++ "\n"
  | .format source locale style =>
    let settings ← command.settings system
    let text ← system.addressText source
    let locale := Locale.ofTag (locale.getD settings.locale.defaultLocale)
    let style := style.getD settings.format.defaultStyle
    let input ← addressInput text
    let shown ← system.answer settings do
      let address ← parse locale input
      let formatter ← Formatter.forLocale locale style
      formatter.format address
    return shown ++ "\n"
  | .info locale display style asText =>
    let settings ← command.settings system
    let tag := locale.getD settings.locale.defaultLocale
    let rows? ← system.answer settings do
      let formatter ← Formatter.forLocale (Locale.ofTag tag)
        (style.getD settings.format.defaultStyle)
      formatter.describe (display.map Locale.ofTag)
    match rows? with
    | none => throw (.noForm tag)
    | some rows =>
      if asText then return joinLines (formLines 1 rows)
      else return printJson (.array (rows.map fun row => .array (row.map FormField.toJson)))
  | .settings settingsCommand =>
    settingsCommand.run system (command.settingsPath.getD system.settingsPath)

end Command

structure Report where
  code : Nat
  output : String := ""
  failure : Option CommandError := none

def versionText : String := "addrfmt 0.1.0\n"

def usageText : String :=
  joinLines ["Usage: addrfmt [OPTIONS] <COMMAND>", "",
    "Commands: parse, format, info, config (show, init, get, set, path)"]

def execute (system : System m) (arguments : List String) : m Report := do
  match Command.ofArguments arguments with
  | .error .usage => return { code := 2 }
  | .error .helpAsked => return { code := 0, output := usageText }
  | .error .versionAsked => return { code := 0, output := versionText }
  | .ok command =>
    match ← (command.run system).run with
    | .ok output => return { code := 0, output }
    | .error cause => return { code := 1, failure := some cause }

end Postal
