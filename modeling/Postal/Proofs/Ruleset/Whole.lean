import Mathlib.Data.List.Forall2
import Postal.Proofs.Ruleset.Orderly

namespace Postal

section Traversals

variable {α β ε : Type} {f : α → Except ε β}

theorem mapM_eq_ok_iff {items : List α} {made : List β} :
    items.mapM f = .ok made ↔ List.Forall₂ (fun item result => f item = .ok result) items made := by
  induction items generalizing made with
  | nil => cases made <;> simp [pure, Except.pure]
  | cons item items ih =>
    rw [List.mapM_cons]
    cases here : f item with
    | error cause => cases made <;> simp [bind, Except.bind, here]
    | ok result =>
      cases others : items.mapM f with
      | error cause => cases made <;> simp [bind, Except.bind, ← ih, others]
      | ok results =>
        cases made <;> simp [bind, Except.bind, pure, Except.pure, ← ih, others, here]

theorem exists_forall₂_iff {r : α → β → Prop} {items : List α} :
    (∃ made, List.Forall₂ r items made) ↔ ∀ item ∈ items, ∃ result, r item result := by
  induction items with
  | nil => exact iff_of_true ⟨[], .nil⟩ nofun
  | cons item items ih =>
    rw [List.forall_mem_cons, ← ih]
    constructor
    · rintro ⟨_, _ | ⟨here, others⟩⟩
      exact ⟨⟨_, here⟩, _, others⟩
    · rintro ⟨⟨result, here⟩, made, others⟩
      exact ⟨result :: made, .cons here others⟩

end Traversals

namespace Scripted

variable {α β ε : Type}

inductive Related (r : α → β → Prop) : Scripted α → Scripted β → Prop
  | uniform {first second} (shared : r first second) : Related r (.uniform first) (.uniform second)
  | byScript {latin asian latin' asian'} (forLatin : Option.Rel r latin latin')
      (forAsian : Option.Rel r asian asian') :
      Related r (.byScript latin asian) (.byScript latin' asian')

theorem option_mapM_eq_ok_iff {f : α → Except ε β} {value : Option α} {made : Option β} :
    value.mapM f = .ok made ↔ Option.Rel (fun item result => f item = .ok result) value made := by
  constructor
  · intro mapped
    cases value with
    | none =>
      obtain rfl := ok_of_mapM_none mapped
      exact .none
    | some value =>
      obtain ⟨result, here, rfl⟩ := ok_of_mapM_some mapped
      exact .some here
  · rintro (here | _)
    · change (some <$> f _) = _
      rw [here]
      rfl
    · rfl

theorem mapM_eq_ok_iff {f : α → Except ε β} {value : Scripted α} {made : Scripted β} :
    value.mapM f = .ok made ↔ value.Related (fun item result => f item = .ok result) made := by
  cases value with
  | uniform value =>
    rw [mapM]
    cases here : f value with
    | error cause =>
      constructor
      · rintro ⟨⟩
      · rintro ⟨shared⟩
        rw [here] at shared
        cases shared
    | ok result =>
      constructor
      · rintro ⟨⟩
        exact .uniform here
      · rintro ⟨shared⟩
        rw [here] at shared
        cases shared
        rfl
  | byScript latin asian =>
    rw [mapM]
    constructor
    · intro mapped
      cases forLatin : latin.mapM f with
      | error cause =>
        rw [forLatin] at mapped
        cases mapped
      | ok latin' =>
        cases forAsian : asian.mapM f with
        | error cause =>
          rw [forLatin, forAsian] at mapped
          cases mapped
        | ok asian' =>
          rw [forLatin, forAsian] at mapped
          cases mapped
          exact .byScript (option_mapM_eq_ok_iff.mp forLatin) (option_mapM_eq_ok_iff.mp forAsian)
    · rintro (_ | ⟨forLatin, forAsian⟩)
      rw [option_mapM_eq_ok_iff.mpr forLatin, option_mapM_eq_ok_iff.mpr forAsian]
      rfl

theorem Related.imp {r s : α → β → Prop} (implies : ∀ {first second}, r first second →
    s first second) {value : Scripted α} {made : Scripted β} (related : value.Related r made) :
    value.Related s made := by
  have optional : ∀ {first : Option α} {second : Option β}, Option.Rel r first second →
      Option.Rel s first second := by
    rintro _ _ (here | _)
    · exact .some (implies here)
    · exact .none
  cases related with
  | uniform shared => exact .uniform (implies shared)
  | byScript forLatin forAsian => exact .byScript (optional forLatin) (optional forAsian)

theorem exists_related_iff {r : α → β → Prop} {value : Scripted α} :
    (∃ made, value.Related r made) ↔ ∀ item ∈ value.values, ∃ result, r item result := by
  have optional : ∀ {given : Option α},
      (∃ made, Option.Rel r given made) ↔ ∀ item ∈ given.toList, ∃ result, r item result := by
    intro given
    cases given with
    | none => exact iff_of_true ⟨none, .none⟩ nofun
    | some item =>
      rw [Option.toList_some, List.forall_mem_singleton]
      constructor
      · rintro ⟨_, ⟨here⟩⟩
        exact ⟨_, here⟩
      · rintro ⟨result, here⟩
        exact ⟨some result, .some here⟩
  cases value with
  | uniform value =>
    rw [values, List.forall_mem_singleton]
    constructor
    · rintro ⟨_, ⟨shared⟩⟩
      exact ⟨_, shared⟩
    · rintro ⟨result, shared⟩
      exact ⟨.uniform result, .uniform shared⟩
  | byScript latin asian =>
    rw [values, List.forall_mem_append, ← optional, ← optional]
    constructor
    · rintro ⟨_, _ | ⟨forLatin, forAsian⟩⟩
      exact ⟨⟨_, forLatin⟩, _, forAsian⟩
    · rintro ⟨⟨latin', forLatin⟩, asian', forAsian⟩
      exact ⟨.byScript latin' asian', .byScript forLatin forAsian⟩

end Scripted

inductive Matcher.MadeOf : Option PatternData → Option Matcher → Prop
  | wholeLine : MadeOf none none
  | literals (items : List String) : MadeOf (some (.literals items)) (some (.literals items))
  | pattern {source : String} {pattern : Pattern}
      (compiled : Pattern.compile .lenient source = .ok pattern) :
      MadeOf (some (.regex source)) (some (.pattern pattern))

structure Rule.MadeOf (data : RuleData) (rule : Rule) : Prop where
  component : rule.component = data.component
  line : rule.line = data.line
  matcher : Matcher.MadeOf data.pattern rule.matcher
  group : rule.group = data.group

def RuleData.Compiles (data : RuleData) : Prop :=
  ∀ source, data.pattern = some (.regex source) →
    ∃ pattern, Pattern.compile .lenient source = .ok pattern

theorem Rule.compile_eq_ok_iff {data : RuleData} {rule : Rule} :
    compile data = .ok rule ↔ Rule.MadeOf data rule := by
  obtain ⟨component, line, given, group⟩ := data
  constructor
  · intro compiled
    unfold compile at compiled
    split at compiled
    · rename_i missing
      cases compiled
      exact ⟨rfl, rfl, by rw [missing]; exact .wholeLine, rfl⟩
    · rename_i items literal
      cases compiled
      exact ⟨rfl, rfl, by rw [literal]; exact .literals items, rfl⟩
    · rename_i source regex
      split at compiled
      · rename_i pattern here
        cases compiled
        exact ⟨rfl, rfl, by rw [regex]; exact .pattern here, rfl⟩
      · cases compiled
  · obtain ⟨component', line', matcher, group'⟩ := rule
    rintro ⟨rfl, rfl, made, rfl⟩
    cases made with
    | wholeLine => rfl
    | literals items => rfl
    | pattern compiled =>
      simp only at compiled ⊢
      simp only [compile, compiled]

theorem Rule.exists_madeOf_iff {data : RuleData} :
    (∃ rule, Rule.MadeOf data rule) ↔ data.Compiles := by
  constructor
  · rintro ⟨rule, made⟩ source regex
    have matcher := made.matcher
    rw [regex] at matcher
    generalize rule.matcher = found at matcher
    cases matcher with
    | pattern compiled => exact ⟨_, compiled⟩
  · intro compiles
    have matcher : ∃ matcher, Matcher.MadeOf data.pattern matcher := by
      cases given : data.pattern with
      | none => exact ⟨none, .wholeLine⟩
      | some pattern =>
        cases pattern with
        | literals items => exact ⟨_, .literals items⟩
        | regex source =>
          obtain ⟨pattern, compiled⟩ := compiles source given
          exact ⟨_, .pattern compiled⟩
    obtain ⟨matcher, made⟩ := matcher
    exact ⟨⟨data.component, data.line, matcher, data.group⟩, rfl, rfl, made, rfl⟩

def RulesetData.scripted (data : RulesetData) : Scripted (List RuleData) :=
  data.rules.getD (.uniform [])

/-- Data of which there is a ruleset: there is a template, and all patterns can be compiled, for
whatever script they are. -/
structure RulesetData.Usable (data : RulesetData) : Prop where
  formats : data.formats ≠ []
  compiles : ∀ rules ∈ data.scripted.values, ∀ rule ∈ rules, rule.Compiles

structure Ruleset.MadeOf (data : RulesetData) (ruleset : Ruleset) : Prop where
  formats : ruleset.formats = data.formats
  startAt : ruleset.startAt = data.startAt.getD (.uniform .finish)
  rules : data.scripted.Related (List.Forall₂ Rule.MadeOf) ruleset.rules
  labels : ruleset.labels = if data.labels.isEmpty then defaultLabels else data.labels
  multiformat : ruleset.multiformat = data.multiformat
  joinText : ruleset.joinText = data.joinText

theorem Ruleset.related_iff {data : RulesetData} {rules : Scripted (List Rule)} :
    data.scripted.mapM (fun rules => rules.mapM Rule.compile) = .ok rules ↔
      data.scripted.Related (List.Forall₂ Rule.MadeOf) rules := by
  have pointwise : ∀ {data : List RuleData} {rules : List Rule},
      data.mapM Rule.compile = .ok rules ↔ List.Forall₂ Rule.MadeOf data rules := by
    intro data rules
    simp only [mapM_eq_ok_iff, Rule.compile_eq_ok_iff]
  rw [Scripted.mapM_eq_ok_iff]
  exact ⟨.imp pointwise.mp, .imp pointwise.mpr⟩

theorem Ruleset.compile_eq_ok_iff {spec : String} {data : RulesetData} {ruleset : Ruleset} :
    compile spec data = .ok ruleset ↔ data.formats ≠ [] ∧ ruleset.MadeOf data := by
  have empty : data.formats.isEmpty = true ↔ data.formats = [] := List.isEmpty_iff
  unfold compile
  split
  · rename_i none
    exact iff_of_false nofun fun given => given.1 (empty.mp none)
  · rename_i some
    have given : data.formats ≠ [] := mt empty.mpr some
    change (data.scripted.mapM (fun rules => rules.mapM Rule.compile) >>= fun rules => _) = _ ↔ _
    constructor
    · intro compiled
      cases made : data.scripted.mapM fun rules => rules.mapM Rule.compile with
      | error cause =>
        rw [made] at compiled
        cases compiled
      | ok rules =>
        rw [made] at compiled
        cases compiled
        exact ⟨given, rfl, rfl, related_iff.mp made, rfl, rfl, rfl⟩
    · obtain ⟨formats, startAt, rules, labels, multiformat, joinText⟩ := ruleset
      rintro ⟨-, rfl, rfl, related, rfl, rfl, rfl⟩
      rw [related_iff.mpr related]
      rfl

theorem RulesetData.Usable.exists_madeOf {data : RulesetData} (usable : data.Usable) :
    ∃ ruleset : Ruleset, ruleset.MadeOf data := by
  have related : ∃ rules, data.scripted.Related (List.Forall₂ Rule.MadeOf) rules :=
    Scripted.exists_related_iff.mpr fun rules mem => exists_forall₂_iff.mpr fun rule listed =>
      Rule.exists_madeOf_iff.mpr (usable.compiles rules mem rule listed)
  obtain ⟨rules, related⟩ := related
  exact ⟨⟨_, _, rules, _, _, _⟩, rfl, rfl, related, rfl, rfl, rfl⟩

theorem Ruleset.MadeOf.compiles {data : RulesetData} {ruleset : Ruleset}
    (made : ruleset.MadeOf data) :
    ∀ rules ∈ data.scripted.values, ∀ rule ∈ rules, rule.Compiles := by
  intro rules mem rule listed
  have pairs := Scripted.exists_related_iff.mp ⟨_, made.rules⟩ rules mem
  exact Rule.exists_madeOf_iff.mp (exists_forall₂_iff.mp pairs rule listed)

namespace Governing

/-- The rules that a value holds: those that its data say, as a whole, or else the generic ones. -/
inductive Holds (value : Json) : Governing → Prop
  | whole {data : RulesetData} {ruleset : Ruleset} (read : RulesetData.read value = .ok data)
      (usable : data.Usable) (made : ruleset.MadeOf data) : Holds value (.territory ruleset)
  | unusable (unusable : ∀ data, RulesetData.read value = .ok data → ¬ data.Usable) :
      Holds value .generic

theorem holds_ofJson (spec : String) (value : Json) : Holds value (ofJson spec value) := by
  rw [ofJson, Ruleset.ofJson]
  cases read : RulesetData.read value with
  | error cause => exact .unusable fun data read' => by rw [read] at read'; cases read'
  | ok data =>
    dsimp only
    cases compiled : Ruleset.compile spec data with
    | ok ruleset =>
      obtain ⟨given, made⟩ := Ruleset.compile_eq_ok_iff.mp compiled
      exact .whole read ⟨given, made.compiles⟩ made
    | error cause =>
      refine .unusable fun data' read' usable => ?_
      rw [read] at read'
      cases read'
      obtain ⟨ruleset, made⟩ := usable.exists_madeOf
      rw [Ruleset.compile_eq_ok_iff.mpr ⟨usable.formats, made⟩] at compiled
      cases compiled

end Governing

end Postal
