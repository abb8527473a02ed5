import Postal.Builtin.Dataset
import Postal.Proofs.Store.Truth

/-!
# A store in use

Any number of callers use one store. Some operations block; others are started and polled, and
perhaps dropped, in any order, while the source changes its pace and the cache is cleared at will.
Over a source that always gives the same answers no caller can tell what the others have done: an
operation gives what it gives on a new store, unless it blocks and is told that a dataset is still
loading. Such news, and what is made of it, stays with that operation.

* `Service.step`, `Service.run`: what an event does, and what a list of events does.
* `Service.gives_completed`: completed operations give what they give on a new store.
-/

namespace Postal

variable {σ α : Type} {source : Source (StateM σ)} {answers : DataKey → Outcome}

structure Errand where
  {Result : Type}
  operation : Operation Result
  activity : Activity Result

/-- A completed operation, with the outcomes of the look-ups for which it blocked. -/
structure Completed where
  {Result : Type}
  operation : Operation Result
  value : Result
  met : List Outcome

structure Service (σ : Type) where
  provider : σ
  store : Store
  errands : List Errand := []
  completed : List Completed := []

namespace Service

inductive Event (σ : Type) where
  | change (provider : σ)
  | call {α : Type} (operation : Operation α)
  | start {α : Type} (operation : Operation α)
  | poll (place : Nat)
  | drop (place : Nat)
  | clear

def file (service : Service σ) (operation : Operation α) : Activity α → Service σ
  | .finished value =>
    { service with completed := service.completed ++ [⟨operation, value, []⟩] }
  | .waiting key number next =>
    { service with errands := service.errands ++ [⟨operation, .waiting key number next⟩] }

def step (source : Source (StateM σ)) (service : Service σ) : Event σ → Service σ
  | .change provider => { service with provider }
  | .call operation =>
    let met := operation.program.met source service.store service.provider
    let ((value, store), provider) :=
      (operation.program.run source service.store).run service.provider
    { service with
      provider, store, completed := service.completed ++ [⟨operation, value, met⟩] }
  | .start operation =>
    let ((activity, store), provider) :=
      (operation.program.advance source service.store).run service.provider
    { service with provider, store }.file operation activity
  | .poll place =>
    match service.errands[place]? with
    | none => service
    | some errand =>
      let ((activity, store), provider) :=
        (errand.activity.poll source service.store).run service.provider
      { service with provider, store, errands := service.errands.eraseIdx place }.file
        errand.operation activity
  | .drop place => { service with errands := service.errands.eraseIdx place }
  | .clear => { service with store := service.store.clear }

def run (source : Source (StateM σ)) (provider : σ) (locale : Locale) (events : List (Event σ)) :
    Service σ :=
  events.foldl (step source) { provider, store := .fresh locale }

end Service

def Operation.result (operation : Operation α) (answers : DataKey → Outcome) : α :=
  operation.program.eval (View.ofAnswers answers)

theorem Operation.gives_result (steady : source.Steady answers) (operation : Operation α)
    (locale : Locale) :
    operation.program.Gives source (.fresh locale) (operation.result answers) :=
  Program.gives_of_reaches steady .start operation.program_honest.faithful

def Completed.Right (completed : Completed) (answers : DataKey → Outcome) : Prop :=
  (∀ outcome ∈ completed.met, pends outcome = false) →
    completed.value = completed.operation.result answers

namespace Service

/-- The store is true to the source, and all operations are on the way to their results or have
given them. -/
structure TrueTo (service : Service σ) (answers : DataKey → Outcome) : Prop where
  store : service.store.TrueTo answers
  errands : ∀ errand ∈ service.errands,
    errand.activity.Promises answers (errand.operation.result answers) service.store.cache
  completed : ∀ completed ∈ service.completed, completed.Right answers

variable {service : Service σ}

theorem TrueTo.withStore (h : service.TrueTo answers) {store : Store} (kept : store.TrueTo answers)
    (later : service.store.cache.Later store.cache) (provider : σ) :
    Service.TrueTo { service with provider, store } answers :=
  ⟨kept, fun errand mem => (h.errands errand mem).later later, h.completed⟩

theorem TrueTo.complete (h : service.TrueTo answers) {completed : Completed}
    (right : completed.Right answers) :
    Service.TrueTo { service with completed := service.completed ++ [completed] } answers := by
  refine ⟨h.store, h.errands, fun other mem => ?_⟩
  rcases List.mem_append.mp mem with old | new
  · exact h.completed other old
  · exact List.mem_singleton.mp new ▸ right

theorem TrueTo.drop (h : service.TrueTo answers) (place : Nat) :
    Service.TrueTo { service with errands := service.errands.eraseIdx place } answers :=
  ⟨h.store, fun errand mem => h.errands errand (List.mem_of_mem_eraseIdx mem), h.completed⟩

theorem TrueTo.file (h : service.TrueTo answers) {operation : Operation α} {activity : Activity α}
    (promises : activity.Promises answers (operation.result answers) service.store.cache) :
    (service.file operation activity).TrueTo answers := by
  cases activity with
  | finished value => exact h.complete fun _ => promises
  | waiting key number next =>
    refine ⟨h.store, fun errand mem => ?_, h.completed⟩
    rcases List.mem_append.mp mem with old | new
    · exact h.errands errand old
    · exact List.mem_singleton.mp new ▸ promises

theorem TrueTo.step (steady : source.Steady answers) (h : service.TrueTo answers)
    (event : Event σ) : (service.step source event).TrueTo answers := by
  cases event with
  | change provider => exact ⟨h.store, h.errands, h.completed⟩
  | call operation =>
    obtain ⟨kept, later, gives⟩ := Program.run_true steady h.store
      (operation.program_honest _) service.provider
    exact (h.withStore kept later _).complete gives
  | start operation =>
    obtain ⟨kept, later, promises⟩ := Program.advance_true steady h.store
      (operation.program_honest.faithful _) service.provider
    exact (h.withStore kept later _).file promises
  | poll place =>
    rw [Service.step]
    split
    · exact h
    · rename_i errand there
      obtain ⟨kept, later, promises⟩ := Activity.poll_true steady h.store
        (h.errands errand (List.mem_of_getElem? there)) service.provider
      exact ((h.withStore kept later _).drop place).file promises
  | drop place => exact h.drop place
  | clear => exact ⟨h.store.clear, h.errands, h.completed⟩

theorem trueTo_run (steady : source.Steady answers) (provider : σ) (locale : Locale)
    (events : List (Event σ)) : (run source provider locale events).TrueTo answers := by
  induction events using List.reverseRecOn with
  | nil => exact ⟨Store.fresh_trueTo locale answers, nofun, nofun⟩
  | append_singleton events event ih =>
    rw [run, List.foldl_append]
    exact ih.step steady event

/-- Over a source that always gives the same answers, an operation that is completed in any use of a
store has given what it gives on a new store, in whichever way it is run there, unless it blocked and
was told that a dataset was still loading. What the store keeps is what the source gives. -/
theorem gives_completed (steady : source.Steady answers) (provider : σ) (locale : Locale)
    (events : List (Event σ)) :
    let service := run source provider locale events
    service.store.TrueTo answers ∧
      ∀ completed ∈ service.completed,
        (∀ outcome ∈ completed.met, pends outcome = false) →
          completed.operation.program.Gives source (.fresh locale) completed.value := by
  intro service
  have trueTo : service.TrueTo answers := trueTo_run steady provider locale events
  refine ⟨trueTo.store, fun completed mem settled => ?_⟩
  rw [trueTo.completed completed mem settled]
  exact completed.operation.gives_result steady locale

theorem gives_completed_behind_gate :
    let source := Source.gated Builtin.load
    let rules : Operation Governing := .rulesForLocale (Locale.ofTag "de-DE")
    let names : Operation (List NameTable) := .countryTables (Locale.ofTag "de-DE")
    let events : List (Event Bool) :=
      [.start rules, .call rules, .change true, .clear, .poll 0, .start names, .call rules,
        .call names]
    let service := run source false Locale.root events
    source.Steady Builtin.load ∧
      service.completed.map (fun completed => completed.met.map pends) =
        [[true], [], [], [false, false, false], [false, false, false]] ∧
      service.store.rulesets.map (·.1) = ["und-DE"] ∧
      service.store.nameTables.map (·.1) = ["en", "de"] ∧
      service.store.TrueTo Builtin.load ∧
      ∀ completed ∈ service.completed,
        (∀ outcome ∈ completed.met, pends outcome = false) →
          completed.operation.program.Gives source (.fresh Locale.root)
            completed.value := by
  intro source rules names events service
  have steady : source.Steady Builtin.load := Source.steady_gated Builtin.load
  refine ⟨steady, ?_, ?_, ?_, gives_completed steady false _ events⟩
  all_goals decide +kernel

end Service

end Postal
