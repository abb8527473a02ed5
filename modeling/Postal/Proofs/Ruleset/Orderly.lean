import Postal.Builtin.Dataset
import Postal.Proofs.Text.Significant
import Postal.Ruleset.Generic

namespace Postal

def Component.reserved : List Component :=
  [.streetAddress, .country, .countryCode]

/-- A ruleset whose rules do not get into each other's way. -/
structure Ruleset.Orderly (ruleset : Ruleset) : Prop where
  different : ∀ script, ((ruleset.rulesFor script).map (·.component)).Nodup
  free : ∀ script, ∀ rule ∈ ruleset.rulesFor script, rule.component ∉ Component.reserved
  joint : ∀ script, ∀ text ∈ ruleset.joinText.bind (·.get script), significant text.toList = []

theorem Ruleset.Orderly.joinTextFor {ruleset : Ruleset} (h : ruleset.Orderly) (script : Script) :
    significant (ruleset.joinTextFor script).toList = [] := by
  unfold Ruleset.joinTextFor
  split
  · rename_i text given
    exact h.joint script text given
  · cases script <;> decide

def Scripted.values {α : Type} : Scripted α → List α
  | uniform value => [value]
  | byScript latin asian => latin.toList ++ asian.toList

theorem Scripted.mem_values {α : Type} {value : Scripted α} {script : Script} {given : α}
    (h : value.get script = some given) : given ∈ value.values := by
  cases value with
  | uniform shared =>
    cases h
    exact List.mem_singleton.mpr rfl
  | byScript latin asian =>
    cases script with
    | latin => exact List.mem_append_left _ (Option.mem_toList.mpr h)
    | asian =>
      rcases Option.or_eq_some_iff.mp h with own | ⟨-, shared⟩
      · exact List.mem_append_right _ (Option.mem_toList.mpr own)
      · exact List.mem_append_left _ (Option.mem_toList.mpr shared)

def RulesetData.componentsFor (data : RulesetData) (script : Script) : List Component :=
  (((data.rules.getD (.uniform [])).get script).getD []).map (·.component)

def RulesetData.isOrderly (data : RulesetData) : Bool :=
  [Script.latin, Script.asian].all fun script =>
    decide (data.componentsFor script).Nodup &&
      (data.componentsFor script).all (! Component.reserved.contains ·) &&
      (data.joinText.bind (·.get script)).all fun text => (significant text.toList).isEmpty

theorem Rule.component_of_compile {data : RuleData} {rule : Rule} (h : compile data = .ok rule) :
    rule.component = data.component := by
  unfold compile at h
  split at h
  · cases h; rfl
  · cases h; rfl
  · split at h
    · cases h; rfl
    · cases h

theorem Rule.components_of_compile {data : List RuleData} {rules : List Rule}
    (h : data.mapM compile = .ok rules) :
    rules.map (·.component) = data.map (·.component) := by
  induction data generalizing rules with
  | nil => cases h; rfl
  | cons first others ih =>
    rw [List.mapM_cons] at h
    cases compiled : compile first with
    | error cause => rw [compiled] at h; cases h
    | ok rule =>
      cases more : others.mapM compile with
      | error cause => rw [compiled, more] at h; cases h
      | ok rest =>
        rw [compiled, more] at h
        cases h
        rw [List.map_cons, List.map_cons, component_of_compile compiled, ih more]

theorem ok_of_mapM_none {α β ε : Type} {f : α → Except ε β} {result : Option β}
    (h : Option.mapM f none = .ok result) : result = none := by
  cases h
  rfl

theorem ok_of_mapM_some {α β ε : Type} {f : α → Except ε β} {value : α} {result : Option β}
    (h : Option.mapM f (some value) = .ok result) : ∃ made, f value = .ok made ∧ result = some made := by
  change (some <$> f value) = _ at h
  cases made : f value with
  | error cause => rw [made] at h; cases h
  | ok made' =>
    rw [made] at h
    cases h
    exact ⟨made', rfl, rfl⟩

theorem Scripted.get_of_mapM {α β ε : Type} {f : α → Except ε β} {value : Scripted α}
    {result : Scripted β} (h : value.mapM f = .ok result) (script : Script) :
    (value.get script).mapM f = .ok (result.get script) := by
  cases value with
  | uniform shared =>
    rw [mapM] at h
    cases mapped : f shared with
    | error cause => rw [mapped] at h; cases h
    | ok made =>
      rw [mapped] at h
      cases h
      change (some <$> f shared) = _
      rw [mapped]
      rfl
  | byScript latin asian =>
    rw [mapM] at h
    cases mappedLatin : latin.mapM f with
    | error cause => rw [mappedLatin] at h; cases h
    | ok madeLatin =>
      cases mappedAsian : asian.mapM f with
      | error cause => rw [mappedLatin, mappedAsian] at h; cases h
      | ok madeAsian =>
        rw [mappedLatin, mappedAsian] at h
        cases h
        cases script with
        | latin => exact mappedLatin
        | asian =>
          cases asian with
          | none =>
            obtain rfl := ok_of_mapM_none mappedAsian
            exact mappedLatin
          | some shared =>
            obtain ⟨made, -, rfl⟩ := ok_of_mapM_some mappedAsian
            exact mappedAsian

theorem Ruleset.rules_of_compile {spec : String} {data : RulesetData} {ruleset : Ruleset}
    (h : compile spec data = .ok ruleset) :
    (data.rules.getD (.uniform [])).mapM (fun rules => rules.mapM Rule.compile) =
        .ok ruleset.rules ∧
      ruleset.joinText = data.joinText := by
  unfold compile at h
  split at h
  · cases h
  · cases compiled : (data.rules.getD (.uniform [])).mapM fun rules => rules.mapM Rule.compile with
    | error cause => rw [compiled] at h; cases h
    | ok rules =>
      rw [compiled] at h
      cases h
      exact ⟨rfl, rfl⟩

theorem Ruleset.components_of_compile {spec : String} {data : RulesetData} {ruleset : Ruleset}
    (h : compile spec data = .ok ruleset) (script : Script) :
    (ruleset.rulesFor script).map (·.component) = data.componentsFor script := by
  have mapped := Scripted.get_of_mapM (rules_of_compile h).1 script
  rw [rulesFor, RulesetData.componentsFor]
  cases given : (data.rules.getD (.uniform [])).get script with
  | none =>
    rw [given] at mapped
    rw [ok_of_mapM_none mapped]
    rfl
  | some rules =>
    rw [given] at mapped
    obtain ⟨compiled, mapped, result⟩ := ok_of_mapM_some mapped
    rw [result]
    exact Rule.components_of_compile mapped

theorem Ruleset.orderly_of_compile {spec : String} {data : RulesetData} {ruleset : Ruleset}
    (h : compile spec data = .ok ruleset) (hData : data.isOrderly = true) : ruleset.Orderly := by
  have same := components_of_compile h
  have checked : ∀ script, (data.componentsFor script).Nodup ∧
      (∀ component ∈ data.componentsFor script, component ∉ Component.reserved) ∧
      ∀ text ∈ data.joinText.bind (·.get script), significant text.toList = [] := by
    intro script
    have mem : script ∈ [Script.latin, Script.asian] := by cases script <;> decide
    have both := List.all_eq_true.1 hData script mem
    simpa [and_assoc, Option.all_eq_true] using both
  refine ⟨fun script => ?_, fun script rule mem => ?_, fun script => ?_⟩
  · rw [same]
    exact (checked script).1
  · refine (checked script).2.1 _ ?_
    rw [← same]
    exact List.mem_map.2 ⟨rule, mem, rfl⟩
  · rw [(rules_of_compile h).2]
    exact (checked script).2.2

theorem Ruleset.orderly_generic : Ruleset.generic.Orderly := by
  have data : genericData.isOrderly = true := by decide
  rw [generic]
  generalize compiled : compile Locale.rootSpec genericData = result
  cases result with
  | ok ruleset => exact orderly_of_compile compiled data
  | error cause =>
    exact ⟨fun _ => List.nodup_nil, fun _ _ mem => absurd mem List.not_mem_nil,
      fun _ _ given => by cases given⟩

theorem Builtin.Territories.isOrderly_of_mem :
    ∀ entry ∈ byRegion, ∀ data, RulesetData.read entry.2 = .ok data → data.isOrderly = true := by
  have checked : byRegion.all (fun entry =>
      match RulesetData.read entry.2 with
      | .ok data => data.isOrderly
      | .error _ => true) = true := by
    decide +kernel
  intro entry mem data read
  have := List.all_eq_true.1 checked entry mem
  rwa [read] at this

/-- What holds of the generic rules and of those that built-in data are compiled to holds of whatever
rules the built-in data give. -/
theorem Builtin.rules_of_load {property : Ruleset → Prop} (generic : property .generic)
    (territory : ∀ entry ∈ Territories.byRegion, ∀ spec data ruleset,
      RulesetData.read entry.2 = .ok data → Ruleset.compile spec data = .ok ruleset →
        property ruleset)
    {spec : String} {value : Json} (h : load ⟨DataKey.address, spec⟩ = .ok (some value)) :
    property (Governing.ofJson spec value).ruleset := by
  obtain ⟨entry, mem, found⟩ : ∃ entry ∈ Territories.byRegion, entry.2 = value := by
    have known : value? ⟨DataKey.address, spec⟩ = some value := Except.ok.inj h
    rw [value?, if_pos rfl] at known
    obtain ⟨entry, mem, same⟩ := List.exists_of_findSome?_eq_some known
    dsimp only at same
    split at same
    · exact ⟨entry, mem, Option.some.inj same⟩
    · cases same
  unfold Governing.ofJson
  split
  · rename_i ruleset compiled
    unfold Ruleset.ofJson at compiled
    split at compiled
    · cases compiled
    · rename_i data read
      exact territory entry mem spec data ruleset (found ▸ read) compiled
  · exact generic

theorem Builtin.orderly_of_load {spec : String} {value : Json}
    (h : load ⟨DataKey.address, spec⟩ = .ok (some value)) :
    (Governing.ofJson spec value).ruleset.Orderly :=
  rules_of_load Ruleset.orderly_generic
    (fun entry mem _ data _ read compiled =>
      Ruleset.orderly_of_compile compiled (Territories.isOrderly_of_mem entry mem data read)) h

end Postal
