import Postal.Address.Json

namespace Postal

/-- A value for all scripts, or one for each script that has one. -/
inductive Scripted (α : Type) where
  | byScript (latin asian : Option α)
  | uniform (value : α)
deriving DecidableEq, Repr

namespace Scripted

variable {α β : Type}

def get (value : Scripted α) (script : Script) : Option α :=
  match value, script with
  | uniform value, _ => some value
  | byScript latin _, .latin => latin
  | byScript latin asian, .asian => asian.or latin

def isByScript : Scripted α → Bool
  | byScript _ _ => true
  | uniform _ => false

def mapM {ε : Type} (f : α → Except ε β) : Scripted α → Except ε (Scripted β)
  | uniform value => (f value).map .uniform
  | byScript latin asian => do
    let latin ← latin.mapM f
    let asian ← asian.mapM f
    return .byScript latin asian

def readByScript (read : Json → Except ShapeError α) : Json → Except ShapeError (Scripted α)
  | .object members => do
    let values ← members.mapM fun (key, value) => do
      let script ← Shape.variantNamed Script.variants none key
      let value ← read value
      return (script, value)
    return .byScript (values.lookup .latin) (values.lookup .asian)
  | value => .error (.wrongType value "a map")

/-- A value for each script apart if it can be read so, or else one for all scripts. -/
def read (read : Json → Except ShapeError α) (value : Json) :
    Except ShapeError (Scripted α) :=
  match readByScript read value with
  | .ok value => .ok value
  | .error _ =>
    match read value with
    | .ok value => .ok (.uniform value)
    | .error _ => .error (.noShape "Scripted")

def toJson (write : α → Json) : Scripted α → Json
  | uniform value => write value
  | byScript latin asian =>
    .object ((asian.map fun value => ("asian", write value)).toList ++
      (latin.map fun value => ("latin", write value)).toList)

end Scripted

inductive Side where
  | start
  | finish
deriving DecidableEq, Repr, Inhabited

namespace Side

def variants : List (String × Side) :=
  [("start", start), ("end", finish)]

def name : Side → String
  | start => "start"
  | finish => "end"

def read : Json → Except ShapeError Side :=
  Shape.readVariant variants none

end Side

inductive LineChoice where
  | first
  | last
  | forward
  | backward
  | unrecognized
deriving DecidableEq, Repr, Inhabited

namespace LineChoice

def variants : List (String × LineChoice) :=
  [("first", first), ("last", last), ("startAtFirst", forward), ("startAtLast", backward),
   ("unknown", unrecognized)]

def name : LineChoice → String
  | first => "first"
  | last => "last"
  | forward => "startAtFirst"
  | backward => "startAtLast"
  | unrecognized => "unknown"

def read : Json → Except ShapeError LineChoice :=
  Shape.readVariant variants (some unrecognized)

end LineChoice

inductive PatternData where
  | regex (source : String)
  | literals (items : List String)
deriving DecidableEq, Repr

namespace PatternData

def read (value : Json) : Except ShapeError PatternData :=
  match Shape.readText value with
  | .ok source => .ok (.regex source)
  | .error _ =>
    match Shape.readList Shape.readText value with
    | .ok items => .ok (.literals items)
    | .error _ => .error (.noShape "PatternData")

def toJson : PatternData → Json
  | regex source => .string source
  | literals items => .array (items.map .string)

end PatternData

structure RuleData where
  component : Component
  line : LineChoice := .last
  pattern : Option PatternData := none
  group : Nat := 0
deriving DecidableEq, Repr

namespace RuleData

def componentVariants : List (String × Component) :=
  Component.all.map fun component => (component.name, component)

structure Partial where
  component : Option Component := none
  line : LineChoice := .last
  pattern : Option PatternData := none
  group : Nat := 0

def fields : List (Shape.Field Partial) :=
  [⟨"name", fun rule value =>
      (Shape.readVariant componentVariants none value).map ({ rule with component := some · })⟩,
   ⟨"line", fun rule value => (LineChoice.read value).map ({ rule with line := · })⟩,
   ⟨"pattern", fun rule value =>
      (Shape.readOptional PatternData.read value).map ({ rule with pattern := · })⟩,
   ⟨"matchGroup", fun rule value => (Shape.readNatural value).map ({ rule with group := · })⟩]

def read (value : Json) : Except ShapeError RuleData := do
  let rule ← Shape.readRecord "FieldRuleData" fields {} value
  match rule.component with
  | some component => return ⟨component, rule.line, rule.pattern, rule.group⟩
  | none => throw (.missingField "name")

def toJson (rule : RuleData) : Json :=
  .object ([("line", .string rule.line.name), ("matchGroup", .integer rule.group),
    ("name", .string rule.component.name)] ++
    (rule.pattern.map fun pattern => ("pattern", pattern.toJson)).toList)

end RuleData

structure RulesetData where
  formats : List (String × Scripted String) := []
  startAt : Option (Scripted Side) := none
  rules : Option (Scripted (List RuleData)) := none
  labels : List (String × String) := []
  multiformat : Bool := false
  joinText : Option (Scripted String) := none
deriving DecidableEq, Repr

namespace RulesetData

def fields : List (Shape.Field RulesetData) :=
  [⟨"formats", fun data value =>
      (Shape.readTable (Scripted.read Shape.readText) value).map ({ data with formats := · })⟩,
   ⟨"startAt", fun data value =>
      (Shape.readOptional (Scripted.read Side.read) value).map ({ data with startAt := · })⟩,
   ⟨"fields", fun data value =>
      (Shape.readOptional (Scripted.read (Shape.readList RuleData.read)) value).map
        ({ data with rules := · })⟩,
   ⟨"fieldNames", fun data value =>
      (Shape.readTable Shape.readText value).map ({ data with labels := · })⟩,
   ⟨"multiformat", fun data value =>
      (Shape.readBool value).map ({ data with multiformat := · })⟩,
   ⟨"joinString", fun data value =>
      (Shape.readOptional (Scripted.read Shape.readText) value).map
        ({ data with joinText := · })⟩]

def read : Json → Except ShapeError RulesetData :=
  Shape.readRecord "RulesetData" fields {}

def toJson (data : RulesetData) : Json :=
  .object ([("fieldNames", .object (data.labels.map fun (name, label) => (name, .string label)))] ++
    (data.rules.map fun rules =>
      ("fields", rules.toJson fun rules => .array (rules.map RuleData.toJson))).toList ++
    [("formats", .object (data.formats.map fun (style, template) =>
      (style, template.toJson .string)))] ++
    (data.joinText.map fun text => ("joinString", text.toJson .string)).toList ++
    [("multiformat", .bool data.multiformat)] ++
    (data.startAt.map fun side => ("startAt", side.toJson fun side => .string side.name)).toList)

end RulesetData

end Postal
