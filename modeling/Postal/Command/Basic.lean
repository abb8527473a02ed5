import Postal.Command.Arguments

namespace Postal

structure TextSource where
  argument : Option String
  file : Option String
deriving DecidableEq, Repr

inductive SettingsCommand where
  | view
  | create (path : Option String) (force : Bool)
  | get (key : String)
  | set (key value : String)
  | path
deriving DecidableEq, Repr

inductive Action where
  | parse (source : TextSource) (locale output : Option String) (asText : Bool)
  | format (source : TextSource) (locale style : Option String)
  | info (locale display style : Option String) (asText : Bool)
  | settings (command : SettingsCommand)
deriving DecidableEq, Repr

structure Command where
  action : Action
  settingsPath : Option String
  dataDirectories : List String
deriving DecidableEq, Repr

namespace Command

def actionOf? (reading : Reading) : Option Action :=
  let source : TextSource := ⟨reading.positionals.head?, reading.value? .input⟩
  match reading.command, reading.positionals with
  | .parse, _ =>
    some (.parse source (reading.value? .locale) (reading.value? .output)
      (reading.value? .format == some "text"))
  | .format, _ => some (.format source (reading.value? .locale) (reading.value? .style))
  | .info, _ =>
    some (.info (reading.value? .locale) (reading.value? .display) (reading.value? .style)
      (reading.has .text))
  | .configShow, _ => some (.settings .view)
  | .configInit, _ => some (.settings (.create (reading.value? .output) (reading.has .force)))
  | .configGet, [key] => some (.settings (.get key))
  | .configSet, [key, value] => some (.settings (.set key value))
  | .configPath, _ => some (.settings .path)
  | _, _ => none

def ofArguments (arguments : List String) : Except Refusal Command := do
  let reading ← readArguments arguments
  match actionOf? reading with
  | some action => return ⟨action, reading.value? .config, reading.values .dataDir⟩
  | none => throw .usage

end Command

end Postal
