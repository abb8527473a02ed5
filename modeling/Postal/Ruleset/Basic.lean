import Postal.Dataset.Basic
import Postal.Locale.Basic
import Postal.Pattern.Reader

namespace Postal

inductive Matcher where
  | pattern (pattern : Pattern)
  | literals (items : List String)
deriving DecidableEq, Repr

def Matcher.source? : Matcher → Option String
  | pattern compiled => some compiled.source
  | literals _ => none

structure Rule where
  component : Component
  line : LineChoice
  matcher : Option Matcher
  group : Nat
deriving DecidableEq, Repr

structure Ruleset where
  formats : List (String × Scripted String)
  startAt : Scripted Side
  rules : Scripted (List Rule)
  labels : List (String × String)
  multiformat : Bool
  joinText : Option (Scripted String)
deriving DecidableEq, Repr

namespace Rule

def compile (data : RuleData) : Except DataError Rule :=
  match data.pattern with
  | none => .ok ⟨data.component, data.line, none, data.group⟩
  | some (.literals items) => .ok ⟨data.component, data.line, some (.literals items), data.group⟩
  | some (.regex source) =>
    match Pattern.compile .lenient source with
    | .ok pattern => .ok ⟨data.component, data.line, some (.pattern pattern), data.group⟩
    | .error cause => .error (.badPattern data.component cause)

end Rule

namespace Ruleset

def defaultLabels : List (String × String) :=
  [("country", "Country"), ("locality", "City"), ("postalCode", "Zip Code"), ("region", "State"),
   ("streetAddress", "Street Address")]

def compile (spec : String) (data : RulesetData) : Except DataError Ruleset :=
  if data.formats.isEmpty then .error (.malformed ⟨DataKey.address, spec⟩ .noFormats)
  else do
    let rules ← (data.rules.getD (.uniform [])).mapM fun rules => rules.mapM Rule.compile
    return {
      formats := data.formats
      startAt := data.startAt.getD (.uniform .finish)
      rules
      labels := if data.labels.isEmpty then defaultLabels else data.labels
      multiformat := data.multiformat
      joinText := data.joinText }

def ofJson (spec : String) (value : Json) : Except DataError Ruleset :=
  match RulesetData.read value with
  | .error cause => .error (.malformed ⟨DataKey.address, spec⟩ (.shape cause))
  | .ok data => compile spec data

def style? (ruleset : Ruleset) (name : String) : Option (Scripted String) :=
  ruleset.formats.lookup name

def side (ruleset : Ruleset) (script : Script) : Side :=
  (ruleset.startAt.get script).getD .finish

def rulesFor (ruleset : Ruleset) (script : Script) : List Rule :=
  (ruleset.rules.get script).getD []

def rule? (ruleset : Ruleset) (script : Script) (name : String) : Option Rule :=
  (ruleset.rulesFor script).find? (·.component.name == name)

def label? (ruleset : Ruleset) (name : String) : Option String :=
  ruleset.labels.lookup name

def joinTextFor (ruleset : Ruleset) (script : Script) : String :=
  match ruleset.joinText.bind (·.get script) with
  | some text => text
  | none => match script with
    | .latin => ", "
    | .asian => ""

end Ruleset

end Postal
