import Postal.Address.Json
import Postal.Proofs.Json.RoundTrip
import Postal.Proofs.Json.Shape

namespace Postal.Address

theorem ext_get {address other : Address}
    (components : ∀ component, address.get component = other.get component)
    (format : address.format = other.format) : address = other := by
  cases address
  cases other
  simp only [mk.injEq]
  exact ⟨components .streetAddress, components .locality, components .region,
    components .postalCode, components .postOffice, components .country, components .countryCode,
    format⟩

def texts (address : Address) : List (String × String) :=
  (Component.all.filterMap fun component =>
    (address.get component).map fun value => (component.name, value)) ++
    [("format", address.format.name)]

theorem toMembers_eq (address : Address) : address.toMembers = Json.ofTexts address.texts := by
  simp only [toMembers, texts, Json.ofTexts, List.map_append, List.map_filterMap, Option.map_map]
  rfl

theorem sublist_presentNames (address : Address) (components : List Component) :
    ((components.filterMap fun component => (address.get component).map fun value =>
      (component.name, Json.string value)).map Prod.fst).Sublist
        (components.map Component.name) := by
  induction components with
  | nil => exact .refl _
  | cons component components ih =>
    cases given : address.get component with
    | none => simpa [List.filterMap_cons, given] using ih.cons _
    | some value => simpa [List.filterMap_cons, given] using ih

theorem nodup_keys (address : Address) : (address.toMembers.map Prod.fst).Nodup := by
  have names : (Component.all.map Component.name ++ ["format"]).Nodup := by decide
  refine names.sublist ?_
  rw [toMembers, List.map_append]
  exact (address.sublist_presentNames _).append_right _

theorem mem_toMembers {address : Address} {key : String} {value : Json}
    (mem : (key, value) ∈ address.toMembers) :
    (∃ component text, address.get component = some text ∧ key = component.name ∧
        value = .string text) ∨
      (key = "format" ∧ value = .string address.format.name) := by
  rcases List.mem_append.mp mem with present | script
  · obtain ⟨component, -, made⟩ := List.mem_filterMap.mp present
    obtain ⟨text, given, same⟩ := Option.map_eq_some_iff.mp made
    cases same
    exact .inl ⟨component, text, given, rfl, rfl⟩
  · cases List.mem_singleton.mp script
    exact .inr ⟨rfl, rfl⟩

theorem find?_component (component : Component) :
    fields.find? (·.name == component.name) = some (componentField component) := by
  cases component <;> rfl

theorem name_ne_format (component : Component) : "format" ≠ component.name := by
  cases component <;> decide

theorem name_injective {component other : Component} (same : component.name = other.name) :
    component = other := by
  have named := other.named?_name
  rw [← same, Component.named?_name] at named
  exact Option.some.inj named

structure Partly (address record : Address) (keys : List String) : Prop where
  components : ∀ component, record.get component = address.get component ∨ component.name ∈ keys
  format : record.format = address.format ∨ "format" ∈ keys

theorem Partly.put {address record : Address} {component : Component} {keys : List String}
    (partly : address.Partly record (component.name :: keys)) :
    address.Partly (record.put component (address.get component)) keys where
  components other := by
    by_cases same : other = component
    · rw [same, get_put_self]
      exact .inl rfl
    · rw [get_put_of_ne _ _ same]
      refine (partly.components other).imp_right fun mem => ?_
      exact (List.mem_cons.mp mem).resolve_left fun name => same (name_injective name)
  format := by
    rw [format_put]
    refine partly.format.imp_right fun mem => ?_
    exact (List.mem_cons.mp mem).resolve_left (name_ne_format component)

theorem Partly.putFormat {address record : Address} {keys : List String}
    (partly : address.Partly record ("format" :: keys)) :
    address.Partly { record with format := address.format } keys where
  components other := by
    have same : get { record with format := address.format } other = record.get other := by
      cases other <;> rfl
    rw [same]
    refine (partly.components other).imp_right fun mem => ?_
    exact (List.mem_cons.mp mem).resolve_left (name_ne_format other).symm
  format := .inl rfl

theorem foldlM_of_listed {address : Address} {members : List (String × Json)}
    (listed : ∀ member ∈ members, member ∈ address.toMembers) {record : Address}
    (partly : address.Partly record (members.map Prod.fst)) :
    members.foldlM (Shape.readMember fields) record = .ok address := by
  induction members generalizing record with
  | nil =>
    have same : record = address :=
      ext_get (fun component => (partly.components component).resolve_right List.not_mem_nil)
        (partly.format.resolve_right List.not_mem_nil)
    rw [same]
    rfl
  | cons first members ih =>
    obtain ⟨key, value⟩ := first
    obtain ⟨here, later⟩ := List.forall_mem_cons.mp listed
    rcases mem_toMembers here with ⟨component, text, given, rfl, rfl⟩ | ⟨rfl, rfl⟩
    · refine Shape.foldlM_cons (find?_component component) ?_ (ih later partly.put)
      rw [given]
      rfl
    · have script : Script.read (.string address.format.name) = .ok address.format := by
        cases address.format <;> rfl
      exact Shape.foldlM_cons rfl (Shape.map_of_ok script) (ih later partly.putFormat)

theorem ofMembers_of_perm {address : Address} {members : List (String × Json)}
    (perm : members.Perm address.toMembers) : ofMembers members = .ok address := by
  have keys := perm.map Prod.fst
  refine Shape.readMembers_of_nodup (keys.nodup_iff.mpr address.nodup_keys)
    (foldlM_of_listed (fun _ mem => perm.subset mem) ⟨fun component => ?_, .inr ?_⟩)
  · rw [keys.mem_iff]
    cases given : address.get component with
    | none =>
      left
      cases component <;> rfl
    | some value =>
      right
      have present : (component.name, Json.string value) ∈ address.toMembers := by
        refine List.mem_append_left _ (List.mem_filterMap.mpr ⟨component, component.mem_all, ?_⟩)
        rw [given]
        rfl
      exact List.mem_map_of_mem present
  · rw [keys.mem_iff, toMembers, List.map_append]
    exact List.mem_append_right _ List.mem_cons_self

theorem texts_ne_nil (address : Address) : address.texts ≠ [] := by
  simp [texts]

theorem ofJson_pretty (address : Address) {blanks : List Char}
    (blank : ∀ c ∈ blanks, JsonReader.isBlank c = true) :
    ∃ value, Json.read (address.toJson.prettyAt 0 ++ blanks) = .ok value ∧
      AddressInput.ofJson value = .ok (.fields address) := by
  obtain ⟨first, others, texts⟩ := List.exists_cons_of_ne_nil address.texts_ne_nil
  have read := Json.read_pretty first others blank
  rw [← texts, ← toMembers_eq] at read
  refine ⟨_, read, ?_⟩
  rw [AddressInput.ofJson, ofMembers_of_perm (Json.sortMembers_perm address.nodup_keys)]

end Postal.Address
