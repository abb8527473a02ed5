import Postal.Locale.Basic
import Postal.Store.Cache
import Postal.Store.Program

namespace Postal

structure Store where
  cache : Cache := {}
  defaultLocale : Locale := Locale.ofTag "en-US"
  rulesets : List (String × Governing) := []
  nameTables : List (String × NameTable) := []

namespace Store

def rulesOf (store : Store) (spec : String) (value : Json) : Governing × Store :=
  match store.rulesets.lookup spec with
  | some rules => (rules, store)
  | none =>
    let rules := Governing.ofJson spec value
    (rules, { store with rulesets := (spec, rules) :: store.rulesets })

def namesOf (store : Store) (spec : String) (value : Json) : Option NameTable × Store :=
  match store.nameTables.lookup spec with
  | some table => (some table, store)
  | none =>
    match NameTable.ofJson spec value with
    | .ok table => (some table, { store with nameTables := (spec, table) :: store.nameTables })
    | .error _ => (none, store)

/-- Forgets the datasets, but not what has been made of them. -/
def clear (store : Store) : Store :=
  { store with cache := store.cache.clear }

end Store

/-- A program on its way, run without waiting. -/
inductive Activity (α : Type) where
  | finished (value : α)
  | waiting (key : DataKey) (flight : Nat) (next : Outcome → Program α)

variable {α : Type} {m : Type → Type} [Monad m]

namespace Program

def run (source : Source m) : Program α → Store → m (α × Store)
  | done value, store => pure (value, store)
  | fetch key next, store => do
    let (outcome, cache) ← store.cache.get source key
    run source (next outcome) { store with cache }
  | compileRules spec value next, store =>
    let (rules, store) := store.rulesOf spec value
    run source (next rules) store
  | compileNames spec value next, store =>
    let (table, store) := store.namesOf spec value
    run source (next table) store

def advance (source : Source m) : Program α → Store → m (Activity α × Store)
  | done value, store => pure (.finished value, store)
  | fetch key next, store =>
    match store.cache.request key with
    | (.settled outcome, cache) => advance source (next outcome) { store with cache }
    | (.flight number, cache) => do
      match ← cache.await source key number with
      | (some outcome, cache) => advance source (next outcome) { store with cache }
      | (none, cache) => return (.waiting key number next, { store with cache })
  | compileRules spec value next, store =>
    let (rules, store) := store.rulesOf spec value
    advance source (next rules) store
  | compileNames spec value next, store =>
    let (table, store) := store.namesOf spec value
    advance source (next table) store

end Program

def Activity.poll (source : Source m) (activity : Activity α) (store : Store) :
    m (Activity α × Store) :=
  match activity with
  | .finished value => pure (.finished value, store)
  | .waiting key number next => do
    match ← store.cache.await source key number with
    | (some outcome, cache) => (next outcome).advance source { store with cache }
    | (none, cache) => return (.waiting key number next, { store with cache })

end Postal
