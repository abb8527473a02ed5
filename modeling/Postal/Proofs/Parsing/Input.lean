import Postal.Proofs.Address.RoundTrip
import Postal.Proofs.Json.Shape
import Postal.Proofs.Store.Operation

namespace Postal

inductive Json.IsOptionalText : Json → Prop
  | null : IsOptionalText .null
  | text (text : String) : IsOptionalText (.string text)

inductive Json.NamesScript (script : Script) : Json → Prop
  | name : NamesScript script (.string script.name)
  | key : NamesScript script (.object [(script.name, .null)])

theorem exists_readOptional_iff {value : Json} :
    (∃ text, Shape.readOptional Shape.readText value = .ok text) ↔ value.IsOptionalText := by
  cases value with
  | null => exact iff_of_true ⟨none, rfl⟩ .null
  | string text => exact iff_of_true ⟨some text, rfl⟩ (.text text)
  | _ => exact iff_of_false nofun nofun

theorem text?_of_readOptional {value : Json} {text : Option String}
    (read : Shape.readOptional Shape.readText value = .ok text) : value.text? = text := by
  cases value with
  | null =>
    cases read
    rfl
  | string given =>
    cases read
    rfl
  | _ => cases read

theorem Script.lookup_variants {name : String} {script : Script} :
    variants.lookup name = some script ↔ name = script.name := by
  constructor
  · intro found
    obtain ⟨before, after, split, -⟩ := List.lookup_eq_some_iff.mp found
    have mem : (name, script) ∈ variants := split ▸ List.mem_append_right _ List.mem_cons_self
    have named : ∀ variant ∈ variants, variant.1 = variant.2.name := by decide
    exact named _ mem
  · rintro rfl
    cases script <;> rfl

theorem Script.read_eq_ok_iff {value : Json} {script : Script} :
    read value = .ok script ↔ value.NamesScript script := by
  rw [read, Shape.readVariant_eq_ok_iff]
  simp only [lookup_variants, exists_eq_left]
  constructor
  · rintro (rfl | rfl)
    · exact .name
    · exact .key
  · rintro (_ | _)
    · exact .inl rfl
    · exact .inr rfl

namespace Address

def isKnown (key : String) : Bool :=
  Component.all.any (·.name == key) || "format" == key

theorem isField_fields : Shape.isField fields = isKnown := by
  funext key
  rw [Shape.isField, fields, List.any_append, List.any_map, isKnown, List.any_cons, List.any_nil,
    Bool.or_false]
  rfl

structure IsDescription (members : List (String × Json)) : Prop where
  once : ((members.map Prod.fst).filter isKnown).Nodup
  components : ∀ (component : Component) value, (component.name, value) ∈ members →
    value.IsOptionalText
  format : ∀ value, ("format", value) ∈ members → ∃ script, value.NamesScript script

theorem isDescription_iff_of_nodup {members : List (String × Json)}
    (distinct : (members.map Prod.fst).Nodup) : IsDescription members ↔
      (∀ (component : Component) value, (component.name, value) ∈ members →
        value.IsOptionalText) ∧
        ∀ value, ("format", value) ∈ members → ∃ script, value.NamesScript script :=
  ⟨fun described => ⟨described.components, described.format⟩,
    fun ⟨components, format⟩ => ⟨distinct.filter _, components, format⟩⟩

structure HasValues (address : Address) (value? : String → Option Json) : Prop where
  components : ∀ component, address.get component = (value? component.name).bind Json.text?
  format : (value? "format" = none ∧ address.format = .latin) ∨
    ∃ value, value? "format" = some value ∧ value.NamesScript address.format

theorem mem_fields {field : Shape.Field Address} (mem : field ∈ fields) :
    (∃ component, field = componentField component) ∨
      field = ⟨"format", fun address value =>
        (Script.read value).map ({ address with format := · })⟩ := by
  rcases List.mem_append.mp mem with ofComponent | format
  · obtain ⟨component, -, rfl⟩ := List.mem_map.mp ofComponent
    exact .inl ⟨component, rfl⟩
  · exact .inr (List.mem_singleton.mp format)

theorem isKnown_component (component : Component) : isKnown component.name = true := by
  cases component <;> rfl

theorem isKnown_format : isKnown "format" = true :=
  rfl

inductive Accepts : String → Json → Prop
  | component (component : Component) {value : Json} (text : value.IsOptionalText) :
      Accepts component.name value
  | format {value : Json} {script : Script} (named : value.NamesScript script) :
      Accepts "format" value

theorem accepts_component {component : Component} {value : Json} :
    Accepts component.name value ↔ value.IsOptionalText := by
  refine ⟨fun accepts => ?_, .component component⟩
  generalize same : component.name = key at accepts
  cases accepts with
  | component _ text => exact text
  | format => exact absurd same.symm (name_ne_format component)

theorem accepts_format {value : Json} :
    Accepts "format" value ↔ ∃ script, value.NamesScript script := by
  refine ⟨fun accepts => ?_, fun ⟨_, named⟩ => .format named⟩
  generalize same : "format" = key at accepts
  cases accepts with
  | component component => exact absurd same (name_ne_format component)
  | format named => exact ⟨_, named⟩

theorem exists_read_iff {field : Shape.Field Address} (mem : field ∈ fields) (record : Address)
    (value : Json) : (∃ result, field.read record value = .ok result) ↔ Accepts field.name value := by
  rcases mem_fields mem with ⟨component, rfl⟩ | rfl
  · exact Shape.exists_map_eq_ok_iff.trans (exists_readOptional_iff.trans accepts_component.symm)
  · refine Shape.exists_map_eq_ok_iff.trans (Iff.trans ?_ accepts_format.symm)
    exact exists_congr fun _ => Script.read_eq_ok_iff

theorem exists_ofMembers_iff {members : List (String × Json)} :
    (∃ address, ofMembers members = .ok address) ↔ IsDescription members := by
  refine (Shape.exists_readMembers_iff (fun field mem => exists_read_iff mem) {} members).trans ?_
  rw [Shape.fieldKeys, isField_fields]
  constructor
  · rintro ⟨once, accepted⟩
    refine ⟨once, fun component value mem => ?_, fun value mem => ?_⟩
    · exact accepts_component.mp (accepted _ mem (isKnown_component component))
    · exact accepts_format.mp (accepted _ mem isKnown_format)
  · rintro ⟨once, components, format⟩
    refine ⟨once, ?_⟩
    rintro ⟨key, value⟩ mem known
    rw [← isField_fields] at known
    obtain ⟨field, listed, same⟩ := List.any_eq_true.mp known
    cases beq_iff_eq.mp same
    rcases mem_fields listed with ⟨component, rfl⟩ | rfl
    · exact accepts_component.mpr (components component value mem)
    · exact accepts_format.mpr (format value mem)

section Steps

variable {record : Address} {value? : String → Option Json} (values : record.HasValues value?)
include values

theorem HasValues.put (component : Component) {value : Json} {text : Option String}
    (given : value.text? = text) : (record.put component text).HasValues fun name =>
      if component.name == name then some value else value? name where
  components other := by
    by_cases same : other = component
    · subst same
      simp [given]
    · have apart : component.name ≠ other.name := fun names => same (name_injective names).symm
      rw [get_put_of_ne _ _ same, beq_false_of_ne apart]
      exact values.components other
  format := by
    rw [format_put, beq_false_of_ne (name_ne_format component).symm]
    exact values.format

theorem HasValues.putFormat {value : Json} {script : Script} (named : value.NamesScript script) :
    HasValues { record with format := script } fun name =>
      if "format" == name then some value else value? name where
  components component := by
    have same : get { record with format := script } component = record.get component := by
      cases component <;> rfl
    rw [same, beq_false_of_ne (name_ne_format component)]
    exact values.components component
  format := .inr ⟨value, rfl, named⟩

theorem HasValues.skip {key : String} (unknown : isKnown key = false) (value : Json) :
    record.HasValues fun name => if key == name then some value else value? name := by
  have apart : ∀ name, isKnown name = true → key ≠ name := by
    rintro name known rfl
    rw [known] at unknown
    cases unknown
  constructor
  · intro component
    rw [beq_false_of_ne (apart _ (isKnown_component component))]
    exact values.components component
  · rw [beq_false_of_ne (apart _ isKnown_format)]
    exact values.format

theorem HasValues.readMember {key : String} {value : Json} {result : Address}
    (read : Shape.readMember fields record (key, value) = .ok result) :
    result.HasValues fun name => if key == name then some value else value? name := by
  rw [Shape.readMember] at read
  cases found : fields.find? (·.name == key) with
  | none =>
    rw [found] at read
    cases read
    exact values.skip (isField_fields ▸ Shape.isField_of_find?_none found) value
  | some field =>
    rw [found] at read
    obtain ⟨-, mem, rfl⟩ := Shape.isField_of_find?_some found
    rcases mem_fields mem with ⟨component, rfl⟩ | rfl
    · obtain ⟨text, given, rfl⟩ := Shape.map_eq_ok_iff.mp read
      exact values.put component (text?_of_readOptional given)
    · obtain ⟨script, given, rfl⟩ := Shape.map_eq_ok_iff.mp read
      exact values.putFormat (Script.read_eq_ok_iff.mp given)

end Steps

theorem HasValues.readMembers {record address : Address} {value? : String → Option Json}
    (values : record.HasValues value?) {members : List (String × Json)}
    (read : members.foldlM (Shape.readMember fields) record = .ok address) :
    address.HasValues fun name => members.foldl
      (fun found (key, value) => if key == name then some value else found) (value? name) := by
  induction members generalizing record value? with
  | nil =>
    cases read
    exact values
  | cons member members ih =>
    rw [List.foldlM_cons] at read
    cases first : Shape.readMember fields record member with
    | error cause =>
      rw [first] at read
      cases read
    | ok next =>
      rw [first] at read
      exact ih (values.readMember first) read

theorem hasValues_of_ofMembers {members : List (String × Json)} {address : Address}
    (read : ofMembers members = .ok address) :
    address.HasValues (Json.member? (.object members)) := by
  obtain ⟨-, -, read⟩ := Shape.readMembers_eq_ok_iff.mp read
  have start : ({} : Address).HasValues fun _ => none :=
    ⟨fun component => by cases component <;> rfl, .inl ⟨rfl, rfl⟩⟩
  exact start.readMembers read

end Address

inductive Json.IsInput : Json → Prop
  | text (text : String) : IsInput (.string text)
  | object {members : List (String × Json)} (described : Address.IsDescription members) :
      IsInput (.object members)

/-- What a value stands for: free text, or the components that are given by its members. -/
inductive Json.StandsFor : Json → AddressInput → Prop
  | text (text : String) : StandsFor (.string text) (.text text)
  | object {members : List (String × Json)} {address : Address}
      (values : address.HasValues (Json.member? (.object members))) :
      StandsFor (.object members) (.fields address)

namespace AddressInput

theorem exists_ofJson_iff {value : Json} :
    (∃ input, ofJson value = .ok input) ↔ value.IsInput := by
  cases value with
  | string text => exact iff_of_true ⟨.text text, rfl⟩ (.text text)
  | object members =>
    rw [ofJson]
    constructor
    · rintro ⟨input, read⟩
      split at read
      · rename_i address described
        exact .object (Address.exists_ofMembers_iff.mp ⟨address, described⟩)
      · cases read
    · rintro (_ | described)
      obtain ⟨address, read⟩ := Address.exists_ofMembers_iff.mpr described
      exact ⟨.fields address, by rw [read]⟩
  | _ =>
    refine iff_of_false ?_ ?_
    · rintro ⟨input, read⟩
      cases read
    · rintro (_ | _)

theorem standsFor_of_ofJson {value : Json} {input : AddressInput}
    (read : ofJson value = .ok input) : value.StandsFor input := by
  cases value with
  | string text =>
    cases read
    exact .text text
  | object members =>
    rw [ofJson] at read
    split at read
    · rename_i address described
      cases read
      exact .object (Address.hasValues_of_ofMembers described)
    · cases read
  | _ => cases read

end AddressInput

theorem InputError.message_eq (error : InputError) :
    ∃ detail, error.message = "invalid argument: " ++ detail := by
  cases error with
  | badFields cause =>
    have text : "invalid argument: bad address fields: " =
        "invalid argument: " ++ "bad address fields: " := by simp
    exact ⟨_, (congrArg (· ++ cause.message) text).trans String.append_assoc⟩
  | neither found =>
    have text : "invalid argument: expected a string or an object, got " =
        "invalid argument: " ++ "expected a string or an object, got " := by simp
    exact ⟨_, (congrArg (· ++ found.kind) text).trans String.append_assoc⟩

theorem parseValue_of_error {value : Json} {error : InputError} (locale : Locale)
    (refused : AddressInput.ofJson value = .error error) :
    parseValue locale value = .done (.error error) := by
  rw [parseValue, refused]
  rfl

theorem parseValue_of_ok {value : Json} {input : AddressInput} (locale : Locale)
    (read : AddressInput.ofJson value = .ok input) :
    parseValue locale value = (parse locale input).bind fun address => .done (.ok address) := by
  rw [parseValue, read]
  rfl

theorem parseValue_filter (locale : Locale) (members : List (String × Json)) :
    parseValue locale (.object (members.filter fun member => Address.isKnown member.1)) =
      parseValue locale (.object members) := by
  have same : Address.ofMembers (members.filter fun member => Address.isKnown member.1) =
      Address.ofMembers members := by
    rw [← Address.isField_fields]
    exact Shape.readMembers_filter [] ({} : Address) members
  rw [parseValue, AddressInput.ofJson, same, parseValue, AddressInput.ofJson]

variable {σ α β : Type}

theorem Program.run_bind_done (source : Source (StateM σ)) (program : Program α) (f : α → β)
    (store : Store) (provider : σ) :
    ((program.bind fun value => .done (f value)).run source store).run provider =
      let result := (program.run source store).run provider
      ((f result.1.1, result.1.2), result.2) := by
  induction program generalizing store provider with
  | done value => rfl
  | fetch key next ih =>
    rw [Program.bind, Program.run, Program.run, StateT.run_bind, StateT.run_bind]
    exact ih _ _ _
  | compileRules spec value next ih => exact ih _ _ provider
  | compileNames spec value next ih => exact ih _ _ provider

/-- Just the values that do not stand for an address are refused, and nothing is loaded for them or
changed on the store. Others are parsed as what they stand for. Keys that are not known do not
matter, and an address is read back from its members in any order. -/
theorem parseValue_accepts (source : Source (StateM σ)) (locale : Locale) :
    (∀ value store provider,
      let result := ((parseValue locale value).run source store).run provider
      ((∃ error, result.1.1 = .error error) ↔ ¬ value.IsInput) ∧
        (∀ error, result.1.1 = .error error →
          result = ((.error error, store), provider) ∧
            ∃ detail, error.message = "invalid argument: " ++ detail) ∧
          ∀ address, result.1.1 = .ok address → ∃ input, value.StandsFor input ∧
            ((parse locale input).run source store).run provider =
              ((address, result.1.2), result.2)) ∧
      (∀ members, parseValue locale (.object (members.filter fun member =>
        Address.isKnown member.1)) = parseValue locale (.object members)) ∧
        ∀ (address : Address) members, members.Perm address.toMembers →
          AddressInput.ofJson (.object members) = .ok (.fields address) := by
  refine ⟨fun value store provider => ?_, parseValue_filter locale, fun address members perm => ?_⟩
  · intro result
    cases read : AddressInput.ofJson value with
    | error error =>
      have refused : result = ((.error error, store), provider) := by
        simp only [result, parseValue_of_error locale read]
        rfl
      have rejected : ¬ value.IsInput := by
        rw [← AddressInput.exists_ofJson_iff, read]
        exact nofun
      rw [refused]
      refine ⟨iff_of_true ⟨error, rfl⟩ rejected, ?_, nofun⟩
      rintro _ ⟨⟩
      exact ⟨rfl, error.message_eq⟩
    | ok input =>
      have parsed : result =
          let parsed := ((parse locale input).run source store).run provider
          ((.ok parsed.1.1, parsed.1.2), parsed.2) := by
        simp only [result, parseValue_of_ok locale read, Program.run_bind_done]
      have accepted : value.IsInput := AddressInput.exists_ofJson_iff.mp ⟨input, read⟩
      rw [parsed]
      refine ⟨iff_of_false nofun (not_not_intro accepted), nofun, ?_⟩
      rintro _ ⟨⟩
      exact ⟨input, AddressInput.standsFor_of_ofJson read, rfl⟩
  · rw [AddressInput.ofJson, Address.ofMembers_of_perm perm]

theorem parseValue_accepts_object_of_script :
    let source := Source.gated Builtin.load
    let run (value : Json) := ((parseValue (Locale.ofTag "de-AT") value).run source {}).run true
    let script := Json.object [("asian", .null)]
    let fields : Address := { locality := some "", format := .asian }
    (∃ error, run (.object [("format", .null)]) = ((.error error, {}), true)) ∧
      (∃ address, (run (.object [("country", .null), ("format", script)])).1.1 = .ok address) ∧
        AddressInput.ofJson (.object [("format", .string "asian"), ("locality", .string "")]) =
          .ok (.fields fields) := by
  intro source run script fields
  obtain ⟨parsed, -, back⟩ := parseValue_accepts source (Locale.ofTag "de-AT")
  refine ⟨?_, ?_, back fields _ (.swap ..)⟩
  · obtain ⟨refuses, refused, -⟩ := parsed (.object [("format", .null)]) {} true
    have nameless : ¬ (Json.object [("format", .null)]).IsInput := by
      rintro (_ | described)
      obtain ⟨script, named⟩ := described.format .null List.mem_cons_self
      cases named
    obtain ⟨error, here⟩ := refuses.mpr nameless
    exact ⟨error, (refused error here).1⟩
  · obtain ⟨refuses, -, -⟩ :=
      parsed (.object [("country", .null), ("format", script)]) {} true
    have accepted : (Json.object [("country", .null), ("format", script)]).IsInput := by
      refine .object ((Address.isDescription_iff_of_nodup (by decide)).mpr ⟨?_, ?_⟩)
      · intro component value mem
        have null : value = .null := by cases component <;> simp_all [Component.name]
        exact null ▸ .null
      · intro value mem
        have same : value = script := by simpa using mem
        exact ⟨.asian, same ▸ .key⟩
    cases result : (run (.object [("country", .null), ("format", script)])).1.1 with
    | ok address => exact ⟨address, rfl⟩
    | error error => exact absurd accepted (refuses.mp ⟨error, result⟩)

end Postal
