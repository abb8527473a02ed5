import Mathlib.Logic.Function.Basic
import Postal.Store.Basic

namespace Postal

variable {α β : Type}

/-- The outcomes of datasets, and what values give under specs. -/
structure View where
  outcome : DataKey → Outcome
  rules : String → Json → Governing
  names : String → Json → Option NameTable

def View.Has (view : View) (basename spec : String) (value : Json) : Prop :=
  view.outcome ⟨basename, spec⟩ = .ok (some value)

theorem View.Has.unique {view : View} {basename spec : String} {first second : Json}
    (h : view.Has basename spec first) (h' : view.Has basename spec second) : first = second := by
  rw [Has, h] at h'
  cases h'
  rfl

structure View.Agrees (first second : View) : Prop where
  outcome : second.outcome = first.outcome
  rules : ∀ spec value, first.Has DataKey.address spec value →
    second.rules spec value = first.rules spec value
  names : ∀ spec value, first.Has DataKey.countryNames spec value →
    second.names spec value = first.names spec value

namespace View.Agrees

theorem refl (view : View) : view.Agrees view :=
  ⟨rfl, fun _ _ _ => rfl, fun _ _ _ => rfl⟩

theorem has {first second : View} (h : first.Agrees second) {basename spec : String} {value : Json}
    (there : first.Has basename spec value) : second.Has basename spec value := by
  rw [View.Has, h.outcome]
  exact there

theorem trans {first second third : View} (h : first.Agrees second) (h' : second.Agrees third) :
    first.Agrees third where
  outcome := h'.outcome.trans h.outcome
  rules := fun spec value there =>
    (h'.rules spec value (h.has there)).trans (h.rules spec value there)
  names := fun spec value there =>
    (h'.names spec value (h.has there)).trans (h.names spec value there)

end View.Agrees

namespace Program

def eval (view : View) : Program α → α
  | done value => value
  | fetch key next => (next (view.outcome key)).eval view
  | compileRules spec value next => (next (view.rules spec value)).eval view
  | compileNames spec value next => (next (view.names spec value)).eval view

/-- The program compiles only values that their specs have in a view. -/
def Faithful (view : View) : Program α → Prop
  | done _ => True
  | fetch key next => (next (view.outcome key)).Faithful view
  | compileRules spec value next =>
    view.Has DataKey.address spec value ∧ (next (view.rules spec value)).Faithful view
  | compileNames spec value next =>
    view.Has DataKey.countryNames spec value ∧ (next (view.names spec value)).Faithful view

theorem eval_bind (view : View) (program : Program α) (rest : α → Program β) :
    (program.bind rest).eval view = (rest (program.eval view)).eval view := by
  induction program with
  | done value => rfl
  | fetch key next ih => exact ih (view.outcome key)
  | compileRules spec value next ih => exact ih (view.rules spec value)
  | compileNames spec value next ih => exact ih (view.names spec value)

theorem faithful_bind {view : View} {program : Program α} {rest : α → Program β}
    (first : program.Faithful view) (second : (rest (program.eval view)).Faithful view) :
    (program.bind rest).Faithful view := by
  induction program with
  | done value => exact second
  | fetch key next ih => exact ih (view.outcome key) first second
  | compileRules spec value next ih => exact ⟨first.1, ih (view.rules spec value) first.2 second⟩
  | compileNames spec value next ih => exact ⟨first.1, ih (view.names spec value) first.2 second⟩

theorem Faithful.of_agrees {first second : View} {program : Program α}
    (faithful : program.Faithful first) (agrees : first.Agrees second) :
    program.Faithful second := by
  induction program with
  | done value => trivial
  | fetch key next ih =>
    rw [Faithful, agrees.outcome]
    exact ih (first.outcome key) faithful
  | compileRules spec value next ih =>
    rw [Faithful, agrees.rules spec value faithful.1]
    exact ⟨agrees.has faithful.1, ih (first.rules spec value) faithful.2⟩
  | compileNames spec value next ih =>
    rw [Faithful, agrees.names spec value faithful.1]
    exact ⟨agrees.has faithful.1, ih (first.names spec value) faithful.2⟩

theorem eval_of_agrees {first second : View} {program : Program α}
    (faithful : program.Faithful first) (agrees : first.Agrees second) :
    program.eval second = program.eval first := by
  induction program with
  | done value => rfl
  | fetch key next ih =>
    rw [eval, eval, agrees.outcome]
    exact ih (first.outcome key) faithful
  | compileRules spec value next ih =>
    rw [eval, eval, agrees.rules spec value faithful.1]
    exact ih (first.rules spec value) faithful.2
  | compileNames spec value next ih =>
    rw [eval, eval, agrees.names spec value faithful.1]
    exact ih (first.names spec value) faithful.2

end Program

def Cache.outcome (cache : Cache) (answers : DataKey → Outcome) (key : DataKey) : Outcome :=
  match cache.slot? key with
  | some (.settled outcome) => outcome
  | _ => answers key

namespace Store

def view (store : Store) (answers : DataKey → Outcome) : View where
  outcome := store.cache.outcome answers
  rules spec value := (store.rulesOf spec value).1
  names spec value := (store.namesOf spec value).1

theorem cache_rulesOf (store : Store) (spec : String) (value : Json) :
    (store.rulesOf spec value).2.cache = store.cache := by
  unfold rulesOf
  split <;> rfl

theorem cache_namesOf (store : Store) (spec : String) (value : Json) :
    (store.namesOf spec value).2.cache = store.cache := by
  unfold namesOf
  split
  · rfl
  · split <;> rfl

theorem rulesOf_fst (store : Store) (spec : String) (value : Json) :
    (store.rulesOf spec value).1 =
      (store.rulesets.lookup spec).getD (Governing.ofJson spec value) := by
  unfold rulesOf
  split
  · rename_i rules kept
    rw [kept, Option.getD_some]
  · rename_i missing
    rw [missing, Option.getD_none]

theorem namesOf_fst (store : Store) (spec : String) (value : Json) :
    (store.namesOf spec value).1 =
      (store.nameTables.lookup spec).or (NameTable.ofJson spec value).toOption := by
  unfold namesOf
  split
  · rename_i table kept
    rw [kept, Option.some_or]
  · rename_i missing
    rw [missing, Option.none_or]
    split
    · rename_i table usable
      rw [usable]
      rfl
    · rename_i cause unusable
      rw [unusable]
      rfl

theorem lookup_rulesOf (store : Store) (spec other : String) (value : Json) :
    (store.rulesOf spec value).2.rulesets.lookup other =
      if other = spec then some (store.rulesOf spec value).1 else store.rulesets.lookup other := by
  unfold rulesOf
  split
  · rename_i rules kept
    split
    · rename_i here
      rw [here, kept]
    · rfl
  · by_cases here : other = spec
    · simp [here]
    · simp [List.lookup_cons, here, beq_eq_false_iff_ne.mpr here]

theorem lookup_namesOf (store : Store) (spec other : String) (value : Json) :
    (store.namesOf spec value).2.nameTables.lookup other =
      if other = spec then (store.namesOf spec value).1 else store.nameTables.lookup other := by
  unfold namesOf
  split
  · rename_i table kept
    split
    · rename_i here
      rw [here, kept]
    · rfl
  · rename_i missing
    split
    · by_cases here : other = spec
      · simp [here]
      · simp [List.lookup_cons, here, beq_eq_false_iff_ne.mpr here]
    · split
      · rename_i here
        rw [here, missing]
      · rfl

theorem rules_view (store : Store) (answers : DataKey → Outcome) (spec : String) (value : Json) :
    (store.view answers).rules spec value =
      (store.rulesets.lookup spec).getD (Governing.ofJson spec value) :=
  store.rulesOf_fst spec value

theorem names_view (store : Store) (answers : DataKey → Outcome) (spec : String) (value : Json) :
    (store.view answers).names spec value =
      (store.nameTables.lookup spec).or (NameTable.ofJson spec value).toOption :=
  store.namesOf_fst spec value

theorem agrees_rulesOf (store : Store) (answers : DataKey → Outcome) {spec : String} {value : Json}
    (there : (store.view answers).Has DataKey.address spec value) :
    (store.view answers).Agrees ((store.rulesOf spec value).2.view answers) := by
  have tables : (store.rulesOf spec value).2.nameTables = store.nameTables := by
    unfold rulesOf
    split <;> rfl
  refine ⟨?_, ?_, ?_⟩
  · rw [view, cache_rulesOf]
    rfl
  · intro other value' there'
    rw [rules_view, rules_view, lookup_rulesOf]
    split
    · rename_i here
      subst here
      rw [Option.getD_some, rulesOf_fst, there'.unique there]
    · rfl
  · intro other value' there'
    rw [names_view, names_view, tables]

theorem agrees_namesOf (store : Store) (answers : DataKey → Outcome) {spec : String} {value : Json}
    (there : (store.view answers).Has DataKey.countryNames spec value) :
    (store.view answers).Agrees ((store.namesOf spec value).2.view answers) := by
  have rulesets : (store.namesOf spec value).2.rulesets = store.rulesets := by
    unfold namesOf
    split
    · rfl
    · split <;> rfl
  refine ⟨?_, ?_, ?_⟩
  · rw [view, cache_namesOf]
    rfl
  · intro other value' there'
    rw [rules_view, rules_view, rulesets]
  · intro other value' there'
    rw [names_view, names_view, lookup_namesOf]
    split
    · rename_i here
      subst here
      rw [namesOf_fst, there'.unique there, Option.or_assoc, Option.or_self]
    · rfl

theorem agrees_of_outcome_eq (store : Store) {answers : DataKey → Outcome} {cache : Cache}
    (same : ∀ key, cache.outcome answers key = store.cache.outcome answers key) :
    (store.view answers).Agrees (Store.view { store with cache } answers) where
  outcome := funext same
  rules := fun spec value _ => by rw [rules_view, rules_view]
  names := fun spec value _ => by rw [names_view, names_view]

end Store

end Postal
