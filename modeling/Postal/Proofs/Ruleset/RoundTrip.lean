import Postal.Proofs.Json.Shape
import Postal.Ruleset.Basic

namespace Postal

open Shape

inductive Json.IsPlain : Json → Prop
  | string (text : String) : IsPlain (.string text)
  | array (items : List Json) : IsPlain (.array items)

theorem Json.IsPlain.ne_null {value : Json} (plain : value.IsPlain) : value ≠ .null := by
  cases plain <;> exact nofun

namespace Scripted

variable {α : Type} {read : Json → Except ShapeError α} {write : α → Json}

theorem readByScript_of_plain {value : Json} (plain : value.IsPlain) :
    readByScript read value = .error (.wrongType value "a map") := by
  cases plain <;> rfl

variable (back : ∀ value, read (write value) = .ok value) (plain : ∀ value, (write value).IsPlain)
include back

theorem readByScript_toJson (latin asian : Option α) :
    readByScript read ((byScript latin asian).toJson write) = .ok (byScript latin asian) := by
  cases latin <;> cases asian <;>
    simp only [readByScript, toJson, Option.map_none, Option.map_some, Option.toList_none,
      Option.toList_some, List.nil_append, List.cons_append, List.mapM_cons, List.mapM_nil, back] <;>
    rfl

include plain

theorem read_toJson (value : Scripted α) : Scripted.read read (value.toJson write) = .ok value := by
  cases value with
  | byScript latin asian => rw [Scripted.read, readByScript_toJson back]
  | uniform value =>
    rw [Scripted.read, toJson, readByScript_of_plain (plain value), back]

theorem readOptional_toJson (value : Scripted α) :
    readOptional (Scripted.read read) (value.toJson write) = .ok (some value) := by
  have given : value.toJson write ≠ .null := by
    cases value with
    | byScript latin asian => exact nofun
    | uniform value => exact (plain value).ne_null
  rw [readOptional_of_ne_null given, read_toJson back plain]
  rfl

end Scripted

theorem Side.read_name (side : Side) : read (.string side.name) = .ok side := by
  cases side <;> rfl

theorem LineChoice.read_name (line : LineChoice) : read (.string line.name) = .ok line := by
  cases line <;> rfl

theorem PatternData.read_toJson (pattern : PatternData) : read pattern.toJson = .ok pattern := by
  cases pattern with
  | regex source => rfl
  | literals items =>
    have listed : readList readText (.array (items.map .string)) = .ok items :=
      readList_array readText_string items
    rw [read, toJson, listed]
    rfl

theorem PatternData.readOptional_toJson (pattern : PatternData) :
    readOptional read pattern.toJson = .ok (some pattern) := by
  have given : pattern.toJson ≠ .null := by cases pattern <;> exact nofun
  rw [readOptional_of_ne_null given, read_toJson]
  rfl

namespace RuleData

theorem lookup_component (component : Component) :
    componentVariants.lookup component.name = some component := by
  cases component <;> rfl

theorem readRecord_toJson (rule : RuleData) :
    readRecord "FieldRuleData" fields {} rule.toJson =
      .ok ⟨some rule.component, rule.line, rule.pattern, rule.group⟩ := by
  have always : [("line", .string rule.line.name), ("matchGroup", .integer rule.group),
      ("name", .string rule.component.name)].foldlM (readMember fields) {} =
        .ok ⟨some rule.component, rule.line, none, rule.group⟩ :=
    foldlM_cons rfl (map_of_ok rule.line.read_name)
      (foldlM_cons rfl (map_of_ok (readNatural_natCast rule.group))
        (foldlM_member rfl (map_of_ok (readVariant_name (lookup_component rule.component) none))))
  have sometimes := foldlM_optional (show fields.find? (·.name == "pattern") = some _ from rfl)
    (fun pattern => ⟨some rule.component, rule.line, pattern, rule.group⟩)
    (fun given => map_of_ok given.readOptional_toJson) rule.pattern
  have keys : ["line", "matchGroup", "name", "pattern"].Nodup := by decide
  refine readMembers_of_nodup (keys.sublist ?_) (foldlM_append always sometimes)
  rw [List.map_append]
  exact (List.Sublist.refl _).append (optionalKey_sublist ..)

theorem read_toJson (rule : RuleData) : read rule.toJson = .ok rule := by
  rw [read, readRecord_toJson]
  rfl

end RuleData

namespace RulesetData

theorem readTable_labels (labels : List (String × String)) :
    readTable readText (.object (labels.map fun (name, label) => (name, .string label))) =
      .ok labels :=
  readTable_object readText_string labels

theorem readTable_formats (formats : List (String × Scripted String)) :
    readTable (Scripted.read readText)
      (.object (formats.map fun (style, template) => (style, template.toJson .string))) =
        .ok formats :=
  readTable_object (Scripted.read_toJson readText_string Json.IsPlain.string) formats

theorem readOptional_rules (rules : Scripted (List RuleData)) :
    readOptional (Scripted.read (readList RuleData.read))
      (rules.toJson fun rules => .array (rules.map RuleData.toJson)) = .ok (some rules) :=
  Scripted.readOptional_toJson (readList_array RuleData.read_toJson) (fun _ => .array _) rules

theorem readOptional_joinText (text : Scripted String) :
    readOptional (Scripted.read readText) (text.toJson .string) = .ok (some text) :=
  Scripted.readOptional_toJson readText_string Json.IsPlain.string text

theorem readOptional_startAt (side : Scripted Side) :
    readOptional (Scripted.read Side.read) (side.toJson fun side => .string side.name) =
      .ok (some side) :=
  Scripted.readOptional_toJson Side.read_name (fun _ => .string _) side

theorem read_toJson (data : RulesetData) : read data.toJson = .ok data := by
  obtain ⟨formats, startAt, rules, labels, multiformat, joinText⟩ := data
  refine readMembers_of_nodup ?_ ?_
  · have keys : ["fieldNames", "fields", "formats", "joinString", "multiformat", "startAt"].Nodup := by
      decide
    refine keys.sublist ?_
    simp only [List.map_append]
    exact (((((List.Sublist.refl _).append (optionalKey_sublist ..)).append (.refl _)).append
      (optionalKey_sublist ..)).append (.refl _)).append (optionalKey_sublist ..)
  · simp only [List.append_assoc, List.cons_append, List.nil_append]
    refine foldlM_cons rfl (map_of_ok (readTable_labels labels)) ?_
    refine foldlM_append (foldlM_optional rfl (fun rules => ({ labels, rules } : RulesetData))
      (fun given => map_of_ok (readOptional_rules given)) rules) ?_
    refine foldlM_cons rfl (map_of_ok (readTable_formats formats)) ?_
    refine foldlM_append (foldlM_optional rfl
      (fun joinText => ({ labels, rules, formats, joinText } : RulesetData))
      (fun given => map_of_ok (readOptional_joinText given)) joinText) ?_
    refine foldlM_cons rfl rfl ?_
    exact foldlM_optional rfl
      (fun startAt => ({ labels, rules, formats, joinText, multiformat, startAt } : RulesetData))
      (fun given => map_of_ok (readOptional_startAt given)) startAt

/-- Data are read back from what is written for them. A value of any spelling that is read can be
written again: what is written is read as the same data and gives the same rules, or the same
error. -/
theorem read_rewritten :
    (∀ data, read data.toJson = .ok data) ∧
      ∀ value data, read value = .ok data →
        read data.toJson = .ok data ∧
          ∀ spec, Ruleset.ofJson spec data.toJson = Ruleset.ofJson spec value := by
  refine ⟨read_toJson, fun value data given => ⟨data.read_toJson, fun spec => ?_⟩⟩
  rw [Ruleset.ofJson, Ruleset.ofJson, data.read_toJson, given]

theorem read_rewritten_array :
    let rule := Json.array [.string "locality", .object [("nowhere", .null)], .array []]
    let value := Json.array
      [.object [("default", .object [("latin", .string "")])], .object [("end", .null)],
        .array [rule]]
    let written := Json.object
      [("fieldNames", .object []),
        ("fields", .array [.object [("line", .string "unknown"), ("matchGroup", .integer 0),
          ("name", .string "locality"), ("pattern", .array [])]]),
        ("formats", .object [("default", .object [("latin", .string "")])]),
        ("multiformat", .bool false), ("startAt", .string "end")]
    ∃ data : RulesetData, read value = .ok data ∧ data.toJson = written ∧
      read written = .ok data ∧
        Ruleset.ofJson "und-AT" written = Ruleset.ofJson "und-AT" value := by
  intro rule value written
  let data : RulesetData :=
    { formats := [("default", .byScript (some "") none)]
      startAt := some (.uniform .finish)
      rules := some (.uniform
        [{ component := .locality, line := .unrecognized, pattern := some (.literals []) }]) }
  have given : read value = .ok data := rfl
  obtain ⟨back, same⟩ := read_rewritten.2 value data given
  exact ⟨data, given, rfl, back, same "und-AT"⟩

end RulesetData

end Postal
