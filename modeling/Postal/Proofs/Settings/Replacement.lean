import Mathlib.Data.List.Induction
import Postal.Settings

namespace Postal

namespace Json

section Members

variable {α : Type*} {name : α → String} {items : List α} {value other : α → Json}

theorem lookup?_concat (members : List (String × Json)) (last : String × Json) (key : String) :
    lookup? (members ++ [last]) key =
      if last.1 == key then some last.2 else lookup? members key := by
  rw [lookup?, List.foldl_append]
  rfl

theorem lookup?_map_congr {key : String}
    (agree : ∀ item ∈ items, name item = key → value item = other item) :
    lookup? (items.map fun item => (name item, value item)) key =
      lookup? (items.map fun item => (name item, other item)) key := by
  induction items using List.reverseRecOn with
  | nil => rfl
  | append_singleton items last ih =>
    simp only [List.map_append, List.map_singleton, lookup?_concat]
    rw [ih fun item mem => agree item (List.mem_append_left _ mem)]
    split
    · rename_i here
      rw [agree last (by simp) (beq_iff_eq.mp here)]
    · rfl

theorem lookup?_map_eq_some {key : String} {found : Json}
    (here : lookup? (items.map fun item => (name item, value item)) key = some found) :
    ∃ item ∈ items, name item = key ∧ value item = found := by
  induction items using List.reverseRecOn with
  | nil => cases here
  | append_singleton items last ih =>
    simp only [List.map_append, List.map_singleton, lookup?_concat] at here
    split at here
    · rename_i same
      exact ⟨last, by simp, beq_iff_eq.mp same, Option.some.inj here⟩
    · obtain ⟨item, mem, named, is⟩ := ih here
      exact ⟨item, List.mem_append_left _ mem, named, is⟩

theorem lookup?_map (once : (items.map name).Nodup) {item : α} (mem : item ∈ items) :
    lookup? (items.map fun item => (name item, value item)) (name item) = some (value item) := by
  induction items using List.reverseRecOn with
  | nil => cases mem
  | append_singleton items last ih =>
    simp only [List.map_append, List.map_singleton, lookup?_concat]
    rw [List.map_append, List.nodup_append] at once
    rcases List.mem_append.mp mem with before | here
    · have apart : name item ≠ name last :=
        once.2.2 _ (List.mem_map_of_mem before) _ (List.mem_map_of_mem (by simp))
      rw [beq_eq_false_iff_ne.mpr apart.symm, ih once.1 before]
      rfl
    · rw [List.mem_singleton.mp here, beq_self_eq_true, if_pos rfl]

end Members

theorem insertMember_of_lt {key : String} (value : Json) {members : List (String × Json)}
    (after : ∀ member ∈ members, member.1 < key) :
    insertMember key value members = members ++ [(key, value)] := by
  induction members with
  | nil => rfl
  | cons first members ih =>
    have less := after first List.mem_cons_self
    have apart : key ≠ first.1 := fun same => String.lt_irrefl _ (same ▸ less)
    rw [insertMember, if_neg (String.lt_asymm less), if_neg apart,
      ih fun member mem => after member (List.mem_cons_of_mem _ mem), List.cons_append]

theorem sortMembers_of_pairwise {members : List (String × Json)}
    (increasing : (members.map Prod.fst).Pairwise (· < ·)) : sortMembers members = members := by
  induction members using List.reverseRecOn with
  | nil => rfl
  | append_singleton members last ih =>
    rw [List.map_append, List.pairwise_append] at increasing
    obtain ⟨before, -, less⟩ := increasing
    have step : sortMembers (members ++ [last]) =
        insertMember last.1 last.2 (sortMembers members) := by
      rw [sortMembers, List.foldl_append]
      rfl
    rw [step, ih before]
    exact insertMember_of_lt _ fun member mem =>
      less _ (List.mem_map_of_mem mem) _ (List.mem_map_of_mem (by simp))

theorem sortedMembers_eq_map (members : List (String × Json)) :
    sortedMembers members = members.map fun member => (member.1, member.2.sorted) := by
  induction members with
  | nil => rfl
  | cons first members ih => rw [sortedMembers, ih, List.map_cons]

end Json

namespace Settings

/-- Neither of two ways into a value leads on from where the other one ends. -/
def Apart (first second : List String) : Prop :=
  ¬ first <+: second ∧ ¬ second <+: first

instance (first second : List String) : Decidable (Apart first second) :=
  inferInstanceAs (Decidable (_ ∧ _))

theorem Apart.tail {part : String} {first second : List String}
    (apart : Apart (part :: first) (part :: second)) : Apart first second :=
  ⟨fun is => apart.1 (List.cons_prefix_cons.mpr ⟨rfl, is⟩),
    fun is => apart.2 (List.cons_prefix_cons.mpr ⟨rfl, is⟩)⟩

def Replaced (key : String) (new : Json) (parts : List String) (old value : Json) : Prop :=
  parts = [] ∧ value = new ∨ assignIn key new parts old = .ok value

variable {key part : String} {parts : List String} {new old value : Json}

theorem Replaced.cons (replaced : assignIn key new (part :: parts) old = .ok value) :
    ∃ members inner changed, old = .object members ∧ Json.lookup? members part = some inner ∧
      Replaced key new parts inner changed ∧
        value = .object (replaceMember part changed members) := by
  cases old with
  | object members =>
    cases parts with
    | nil =>
      rw [assignIn] at replaced
      split at replaced
      · rename_i listed
        obtain ⟨inner, found⟩ := Option.isSome_iff_exists.mp listed
        exact ⟨members, inner, new, rfl, found, .inl ⟨rfl, rfl⟩, (Except.ok.inj replaced).symm⟩
      · cases replaced
    | cons next parts =>
      simp only [assignIn] at replaced
      cases found : Json.lookup? members part with
      | none =>
        rw [found] at replaced
        cases replaced
      | some inner =>
        rw [found] at replaced
        cases changed : assignIn key new (next :: parts) inner with
        | error cause =>
          simp only [changed] at replaced
          cases replaced
        | ok result =>
          simp only [changed] at replaced
          exact ⟨members, inner, result, rfl, found, .inr changed, (Except.ok.inj replaced).symm⟩
  | _ => cases parts <;> cases replaced

structure Change (parts : List String) (new old changed : Json) : Prop where
  kept : ∀ other, Apart parts other → lookup? changed other = lookup? old other
  given : ∀ single, lookup? old parts = some single → (∀ members, single ≠ .object members) →
    lookup? changed parts = some new

structure Codec (α : Type) where
  write : α → Json
  read : Json → Except ShapeError α

structure Codec.Lawful {α : Type} (codec : Codec α) : Prop where
  sorted : ∀ record, (codec.write record).sorted = codec.write record
  back : ∀ record, codec.read (codec.write record) = .ok record
  change : ∀ {key new parts value record result},
    Replaced key new parts (codec.write record) value → codec.read value.sorted = .ok result →
      Change parts new (codec.write record) (codec.write result)

structure Codec.Exact {α : Type} (codec : Codec α) : Prop where
  sorted : ∀ value, (codec.write value).sorted = codec.write value
  back : ∀ value, codec.read (codec.write value) = .ok value
  single : ∀ value members, codec.write value ≠ .object members
  exact : ∀ value result, codec.read value.sorted = .ok result → codec.write result = value

theorem Codec.Exact.lawful {α : Type} {codec : Codec α} (exact : codec.Exact) : codec.Lawful where
  sorted := exact.sorted
  back := exact.back
  change := by
    intro key new parts value record result replaced read
    rcases replaced with ⟨rfl, rfl⟩ | within
    · exact ⟨fun other apart => absurd List.nil_prefix apart.1, fun single here whole =>
        congrArg some (exact.exact _ _ read)⟩
    · cases parts with
      | nil => cases within
      | cons part parts =>
        obtain ⟨members, -, -, is, -⟩ := Replaced.cons within
        exact absurd is (exact.single record members)

structure Member (σ : Type) where
  {α : Type}
  name : String
  get : σ → α
  codec : Codec α

namespace Member

variable {σ : Type}

def write (member : Member σ) (record : σ) : Json :=
  member.codec.write (member.get record)

def Reads (member : Member σ) (value : Json) (record : σ) : Prop :=
  member.codec.read value = .ok (member.get record)

theorem write_eq_of_reads {member : Member σ} (lawful : member.codec.Lawful) {record result : σ}
    (reads : member.Reads (member.write record) result) :
    member.write result = member.write record := by
  have back := lawful.back (member.get record)
  rw [Reads, write, back] at reads
  rw [write, write, Except.ok.inj reads]

end Member

structure Record (σ : Type) where
  members : List (Member σ)
  read : Json → Except ShapeError σ

namespace Record

variable {σ : Type} {record : Record σ} {old result : σ}

def object (record : Record σ) (values : Member σ → Json) : Json :=
  .object (record.members.map fun member => (member.name, values member))

def codec (record : Record σ) : Codec σ where
  write value := record.object (·.write value)
  read := record.read

structure Lawful (record : Record σ) : Prop where
  increasing : (record.members.map Member.name).Pairwise (· < ·)
  members : ∀ member ∈ record.members, member.codec.Lawful
  back : ∀ value, record.read (record.object (·.write value)) = .ok value
  reads : ∀ values result, record.read (record.object values) = .ok result →
    ∀ member ∈ record.members, member.Reads (values member) result

theorem Lawful.nodup (lawful : record.Lawful) : (record.members.map Member.name).Nodup :=
  List.Pairwise.imp (fun less => Std.ne_of_lt less) lawful.increasing

theorem Lawful.sorted_object (lawful : record.Lawful) (values : Member σ → Json) :
    (record.object values).sorted = record.object fun member => (values member).sorted := by
  rw [object, Json.sorted, Json.sortedMembers_eq_map, Json.ofMembers, List.map_map,
    Json.sortMembers_of_pairwise]
  · rfl
  · rw [List.map_map]
    exact lawful.increasing

theorem lookup?_object (record : Record σ) (values : Member σ → Json) (part : String)
    (parts : List String) : lookup? (record.object values) (part :: parts) =
      (Json.lookup? (record.members.map fun member => (member.name, values member)) part).bind
        (lookup? · parts) :=
  rfl

theorem Lawful.change_member (lawful : record.Lawful) {member : Member σ}
    (mem : member ∈ record.members)
    (others : ∀ other ∈ record.members, other.name ≠ member.name →
      other.write result = other.write old)
    (within : Change parts new (member.write old) (member.write result)) :
    Change (member.name :: parts) new (record.object (·.write old))
      (record.object (·.write result)) where
  kept := by
    intro other apart
    cases other with
    | nil => exact absurd List.nil_prefix apart.2
    | cons part rest =>
      rw [lookup?_object, lookup?_object]
      by_cases same : part = member.name
      · subst same
        rw [Json.lookup?_map lawful.nodup mem, Json.lookup?_map lawful.nodup mem]
        exact within.kept rest apart.tail
      · rw [Json.lookup?_map_congr fun other listed named =>
          others other listed fun is => same (named.symm.trans is)]
  given := by
    intro single here whole
    rw [lookup?_object, Json.lookup?_map lawful.nodup mem] at here ⊢
    exact within.given single here whole

theorem Lawful.codec (lawful : record.Lawful) : record.codec.Lawful where
  sorted := by
    intro value
    refine (lawful.sorted_object _).trans ?_
    refine congrArg Json.object (List.map_congr_left fun member mem => ?_)
    exact congrArg (member.name, ·) ((lawful.members member mem).sorted _)
  back := lawful.back
  change := by
    intro key new parts value old result replaced read
    rcases replaced with ⟨rfl, rfl⟩ | within
    · exact ⟨fun other apart => absurd List.nil_prefix apart.1, fun single here whole =>
        absurd (Option.some.inj here).symm (whole _)⟩
    · cases parts with
      | nil => cases within
      | cons part parts =>
        obtain ⟨members, inner, changed, is, found, replaced, rfl⟩ := Replaced.cons within
        cases Json.object.inj is
        obtain ⟨member, mem, rfl, rfl⟩ := Json.lookup?_map_eq_some found
        -- What is read again differs from what was written in the value of this member.
        have same : Json.object (replaceMember member.name changed
            (record.members.map fun other => (other.name, other.write old))) =
              record.object fun other =>
                if other.name = member.name then changed else other.write old := by
          rw [object, replaceMember, List.map_map]
          rfl
        rw [same, lawful.sorted_object] at read
        have reads := lawful.reads _ _ read
        refine lawful.change_member mem (fun other listed apart => ?_) ?_
        · have kept := reads other listed
          rw [if_neg apart, Member.write, (lawful.members other listed).sorted] at kept
          exact Member.write_eq_of_reads (lawful.members other listed) kept
        · have here := reads member mem
          rw [if_pos rfl] at here
          exact (lawful.members member mem).change replaced here

end Record

end Settings

end Postal
