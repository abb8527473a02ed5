import Postal.Json.Shape

namespace Postal.Shape

theorem map_of_ok {α β : Type} {attempt : Except ShapeError α} {f : α → β} {value : α}
    (read : attempt = .ok value) : attempt.map f = .ok (f value) := by
  rw [read]
  rfl

theorem map_eq_ok_iff {α β : Type} {attempt : Except ShapeError α} {f : α → β} {result : β} :
    attempt.map f = .ok result ↔ ∃ value, attempt = .ok value ∧ f value = result := by
  cases attempt <;> simp [Except.map]

theorem exists_map_eq_ok_iff {α β : Type} {attempt : Except ShapeError α} {f : α → β} :
    (∃ result, attempt.map f = .ok result) ↔ ∃ value, attempt = .ok value := by
  cases attempt <;> simp [Except.map]

section Members

variable {σ : Type} {fields : List (Field σ)}

def isField (fields : List (Field σ)) (key : String) : Bool :=
  fields.any (·.name == key)

def fieldKeys (fields : List (Field σ)) (members : List (String × Json)) : List String :=
  (members.map Prod.fst).filter (isField fields)

def readMember (fields : List (Field σ)) (record : σ) (member : String × Json) :
    Except ShapeError σ :=
  match fields.find? (·.name == member.1) with
  | none => .ok record
  | some field => field.read record member.2

theorem isField_of_find?_none {key : String} (missing : fields.find? (·.name == key) = none) :
    isField fields key = false := by
  simpa [isField] using missing

theorem isField_of_find?_some {key : String} {field : Field σ}
    (found : fields.find? (·.name == key) = some field) :
    isField fields key = true ∧ field ∈ fields ∧ field.name = key := by
  have mem := List.mem_of_find?_eq_some found
  have same : field.name = key := by simpa using List.find?_some found
  exact ⟨List.any_eq_true.mpr ⟨field, mem, by simpa using same⟩, mem, same⟩

theorem fieldKeys_cons_of_find?_none {key : String}
    (missing : fields.find? (·.name == key) = none) (value : Json)
    (members : List (String × Json)) :
    fieldKeys fields ((key, value) :: members) = fieldKeys fields members := by
  simp [fieldKeys, isField_of_find?_none missing]

theorem fieldKeys_cons_of_find?_some {key : String} {field : Field σ}
    (found : fields.find? (·.name == key) = some field) (value : Json)
    (members : List (String × Json)) :
    fieldKeys fields ((key, value) :: members) = key :: fieldKeys fields members := by
  simp [fieldKeys, (isField_of_find?_some found).1]

theorem readMembers_eq_ok_iff {seen : List String} {record result : σ}
    {members : List (String × Json)} :
    readMembers fields seen record members = .ok result ↔
      (fieldKeys fields members).Nodup ∧ (∀ key ∈ fieldKeys fields members, key ∉ seen) ∧
        members.foldlM (readMember fields) record = .ok result := by
  induction members generalizing seen record with
  | nil => simp [readMembers, fieldKeys, pure, Except.pure]
  | cons member members ih =>
    obtain ⟨key, value⟩ := member
    cases found : fields.find? (·.name == key) with
    | none =>
      rw [fieldKeys_cons_of_find?_none found, readMembers, List.foldlM_cons, readMember, found]
      exact ih
    | some field =>
      rw [fieldKeys_cons_of_find?_some found, readMembers, List.foldlM_cons, readMember, found,
        List.nodup_cons, List.forall_mem_cons]
      by_cases again : key ∈ seen
      · simp only [List.contains_iff_mem.mpr again, if_true]
        refine iff_of_false nofun ?_
        rintro ⟨-, ⟨fresh, -⟩, -⟩
        exact fresh again
      · have fresh : seen.contains key = false := by simpa using again
        simp only [fresh]
        cases read : field.read record value with
        | error cause =>
          refine iff_of_false nofun ?_
          rintro ⟨-, -, fails⟩
          cases fails
        | ok next =>
          -- The later keys are different from this one and from those before it.
          have apart : (∀ other ∈ fieldKeys fields members, other ∉ key :: seen) ↔
              key ∉ fieldKeys fields members ∧
                ∀ other ∈ fieldKeys fields members, other ∉ seen := by
            simp only [List.mem_cons, not_or, forall_and]
            refine and_congr_left fun _ => ?_
            exact ⟨fun apart mem => apart key mem rfl, fun absent other mem same =>
              absent (same ▸ mem)⟩
          have rest : readMembers fields (key :: seen) next members = .ok result ↔ _ := ih
          rw [apart] at rest
          refine rest.trans ⟨?_, ?_⟩
          · rintro ⟨once, ⟨absent, others⟩, reads⟩
            exact ⟨⟨absent, once⟩, ⟨again, others⟩, reads⟩
          · rintro ⟨⟨absent, once⟩, ⟨-, others⟩, reads⟩
            exact ⟨once, ⟨absent, others⟩, reads⟩

theorem exists_readMembers_iff {accepts : String → Json → Prop}
    (readable : ∀ field ∈ fields, ∀ record value,
      (∃ result, field.read record value = .ok result) ↔ accepts field.name value)
    (record : σ) (members : List (String × Json)) :
    (∃ result, readMembers fields [] record members = .ok result) ↔
      (fieldKeys fields members).Nodup ∧
        ∀ member ∈ members, isField fields member.1 = true → accepts member.1 member.2 := by
  simp only [readMembers_eq_ok_iff, List.not_mem_nil, not_false_eq_true, implies_true, true_and,
    exists_and_left]
  refine and_congr_right' ?_
  induction members generalizing record with
  | nil => simp [pure, Except.pure]
  | cons member members ih =>
    obtain ⟨key, value⟩ := member
    rw [List.forall_mem_cons, List.foldlM_cons, readMember]
    cases found : fields.find? (·.name == key) with
    | none =>
      have unknown := isField_of_find?_none found
      simp only [unknown, Bool.false_eq_true, false_implies, true_and]
      exact ih record
    | some field =>
      obtain ⟨known, mem, rfl⟩ := isField_of_find?_some found
      simp only [known, true_implies]
      rw [← readable field mem record value]
      cases read : field.read record value with
      | error cause => exact iff_of_false nofun nofun
      | ok next =>
        have here : ∃ result, (Except.ok next : Except ShapeError σ) = .ok result := ⟨next, rfl⟩
        simp only [here, true_and]
        exact ih next

theorem readMembers_filter (seen : List String) (record : σ) (members : List (String × Json)) :
    readMembers fields seen record (members.filter fun member => isField fields member.1) =
      readMembers fields seen record members := by
  induction members generalizing seen record with
  | nil => rfl
  | cons member members ih =>
    obtain ⟨key, value⟩ := member
    rw [readMembers, List.filter_cons]
    cases found : fields.find? (·.name == key) with
    | none =>
      simp only [isField_of_find?_none found, Bool.false_eq_true, if_false]
      exact ih seen record
    | some field =>
      simp only [(isField_of_find?_some found).1, if_true]
      rw [readMembers, found]
      simp only [ih]

theorem readMembers_of_nodup {record result : σ} {members : List (String × Json)}
    (once : (members.map Prod.fst).Nodup)
    (read : members.foldlM (readMember fields) record = .ok result) :
    readMembers fields [] record members = .ok result :=
  readMembers_eq_ok_iff.mpr ⟨once.filter _, fun _ _ => List.not_mem_nil, read⟩

theorem foldlM_append {record middle result : σ} {first second : List (String × Json)}
    (before : first.foldlM (readMember fields) record = .ok middle)
    (after : second.foldlM (readMember fields) middle = .ok result) :
    (first ++ second).foldlM (readMember fields) record = .ok result := by
  rw [List.foldlM_append, before]
  exact after

theorem foldlM_cons {field : Field σ} {key : String}
    (found : fields.find? (·.name == key) = some field) {record middle result : σ} {value : Json}
    {members : List (String × Json)} (read : field.read record value = .ok middle)
    (after : members.foldlM (readMember fields) middle = .ok result) :
    ((key, value) :: members).foldlM (readMember fields) record = .ok result := by
  rw [List.foldlM_cons, readMember, found]
  simp only [read]
  exact after

theorem exists_of_foldlM_cons {field : Field σ} {key : String}
    (found : fields.find? (·.name == key) = some field) {record result : σ} {value : Json}
    {members : List (String × Json)}
    (read : ((key, value) :: members).foldlM (readMember fields) record = .ok result) :
    ∃ middle, field.read record value = .ok middle ∧
      members.foldlM (readMember fields) middle = .ok result := by
  rw [List.foldlM_cons, readMember, found] at read
  cases here : field.read record value with
  | error cause =>
    simp only [here] at read
    cases read
  | ok middle =>
    simp only [here] at read
    exact ⟨middle, rfl, read⟩

theorem foldlM_member {field : Field σ} {key : String}
    (found : fields.find? (·.name == key) = some field) {record result : σ} {value : Json}
    (read : field.read record value = .ok result) :
    [(key, value)].foldlM (readMember fields) record = .ok result :=
  foldlM_cons found read rfl

theorem foldlM_optional {field : Field σ} {key : String}
    (found : fields.find? (·.name == key) = some field) {α : Type} {write : α → Json}
    (set : Option α → σ)
    (read : ∀ value, field.read (set none) (write value) = .ok (set (some value)))
    (given : Option α) :
    (given.map fun value => (key, write value)).toList.foldlM (readMember fields) (set none) =
      .ok (set given) := by
  cases given with
  | none => rfl
  | some value => exact foldlM_member found (read value)

theorem optionalKey_sublist {α : Type} (key : String) (write : α → Json) (given : Option α) :
    ((given.map fun value => (key, write value)).toList.map Prod.fst).Sublist [key] := by
  cases given with
  | none => exact List.nil_sublist _
  | some value => exact .refl _

end Members

theorem readText_string (text : String) : readText (.string text) = .ok text :=
  rfl

theorem readNatural_natCast (number : Nat) : readNatural (.integer number) = .ok number := by
  simp [readNatural]

theorem readOptional_of_ne_null {α : Type} {read : Json → Except ShapeError α} {value : Json}
    (given : value ≠ .null) : readOptional read value = (read value).map some := by
  cases value with
  | null => exact absurd rfl given
  | _ => rfl

section Written

variable {α : Type} {read : Json → Except ShapeError α} {write : α → Json}
  (back : ∀ value, read (write value) = .ok value)
include back

theorem readList_array (items : List α) :
    readList read (.array (items.map write)) = .ok items := by
  rw [readList]
  induction items with
  | nil => rfl
  | cons item items ih =>
    rw [List.map_cons, List.mapM_cons, back, ih]
    rfl

theorem readTable_object (table : List (String × α)) :
    readTable read (.object (table.map fun (key, value) => (key, write value))) = .ok table := by
  rw [readTable]
  induction table with
  | nil => rfl
  | cons entry table ih =>
    rw [List.map_cons, List.mapM_cons, ih]
    simp only [back]
    rfl

end Written

theorem readVariant_name {α : Type} {variants : List (String × α)} {name : String} {variant : α}
    (found : variants.lookup name = some variant) (other : Option α) :
    readVariant variants other (.string name) = .ok variant := by
  simp only [readVariant, variantNamed, found]

theorem readVariant_eq_ok_iff {α : Type} {variants : List (String × α)} {value : Json}
    {variant : α} : readVariant variants none value = .ok variant ↔
      ∃ name, variants.lookup name = some variant ∧
        (value = .string name ∨ value = .object [(name, .null)]) := by
  have named : ∀ name, variantNamed variants none name = .ok variant ↔
      variants.lookup name = some variant := by
    intro name
    cases found : variants.lookup name <;> simp [variantNamed, found]
  constructor
  · intro read
    match value, read with
    | .string name, read => exact ⟨name, (named name).mp read, .inl rfl⟩
    | .object [(name, content)], read =>
      rw [readVariant] at read
      cases found : variantNamed variants none name with
      | error cause =>
        rw [found] at read
        cases read
      | ok other =>
        rw [found] at read
        cases content with
        | null =>
          cases read
          exact ⟨name, (named name).mp found, .inr rfl⟩
        | _ => cases read
  · rintro ⟨name, known, rfl | rfl⟩
    · exact (named name).mpr known
    · rw [readVariant, (named name).mpr known]
      rfl

end Postal.Shape
