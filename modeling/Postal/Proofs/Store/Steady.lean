import Postal.Proofs.Store.Cache
import Postal.Proofs.Store.View

/-!
# Runs over a source that does not change

If a source always gives the same answers, a program has one result on a store: the one on what it
sees of the store. It does not matter whether the program waits for datasets or is polled, how often
it is polled before loads are finished, or what was run on the store before.

* `Program.run_steady`: what a blocking run gives and leaves.
* `Program.advance_course`, `Course.poll`: what a run that does not block gives and leaves.
* `Program.exists_finished`: such a run comes to its end if all loads do.
* `Program.gives_eval`, `Store.Reaches.agrees`: both together, for a store before and after use.
-/

namespace Postal

variable {σ α : Type} {source : Source (StateM σ)} {answers : DataKey → Outcome}

/-- The source always gives the same answers, however long its loads take. -/
structure Source.Steady (source : Source (StateM σ)) (answers : DataKey → Outcome) : Prop where
  load : ∀ key provider, ((source.load key).run provider).1 = answers key
  advance : ∀ key provider outcome, ((source.advance key).run provider).1 = some outcome →
    outcome = answers key

theorem Source.steady_gated (answers : DataKey → Outcome) : (gated answers).Steady answers where
  load _ _ := rfl
  advance _ _ _ := gated_advance

namespace Cache

def Quiet (cache : Cache) : Prop :=
  ∀ key number, cache.slot? key ≠ some (.loading number)

def Due (cache : Cache) (answers : DataKey → Outcome) (number : Nat) (key : DataKey) : Prop :=
  ∃ load, cache.history[number]? = some load ∧ load.key = key ∧
    ∀ outcome, load.outcome = some outcome → outcome = answers key

def Flying (cache : Cache) (answers : DataKey → Outcome) : Prop :=
  ∀ key number, cache.slot? key = some (.loading number) → cache.Due answers number key

theorem Quiet.flying {cache : Cache} (quiet : cache.Quiet) (answers : DataKey → Outcome) :
    cache.Flying answers :=
  fun key number flying => absurd flying (quiet key number)

theorem outcome_of_settled {cache : Cache} {key : DataKey} {outcome : Outcome}
    (known : cache.slot? key = some (.settled outcome)) : cache.outcome answers key = outcome := by
  rw [Cache.outcome, known]

theorem outcome_of_loading {cache : Cache} {key : DataKey} {number : Nat}
    (flying : cache.slot? key = some (.loading number)) :
    cache.outcome answers key = answers key := by
  rw [Cache.outcome, flying]

theorem outcome_of_unknown {cache : Cache} {key : DataKey} (unknown : cache.slot? key = none) :
    cache.outcome answers key = answers key := by
  rw [Cache.outcome, unknown]

theorem outcome_settle (cache : Cache) {key : DataKey} {outcome : Outcome}
    (same : cache.outcome answers key = outcome) (other : DataKey) :
    (cache.settle key outcome).outcome answers other = cache.outcome answers other := by
  rw [Cache.outcome, slot?_settle]
  split
  · rename_i known there
    split at there
    · rename_i here
      cases there
      rw [here, same]
    · exact (outcome_of_settled there).symm
  · rename_i unsettled
    split at unsettled
    · exact absurd rfl (unsettled outcome)
    · rw [Cache.outcome]
      split
      · rename_i known there
        exact absurd there (unsettled known)
      · rfl

/-! ## Blocking runs -/

theorem get_steady (steady : source.Steady answers) {cache : Cache} (quiet : cache.Quiet)
    (key : DataKey) (provider : σ) :
    let result := (cache.get source key).run provider
    result.1.1 = cache.outcome answers key ∧
      (∀ other, result.1.2.outcome answers other = cache.outcome answers other) ∧
        result.1.2.Quiet := by
  have got := cache.get_got source key provider
  generalize (cache.get source key).run provider = result at got
  cases got with
  | settled outcome known => exact ⟨(outcome_of_settled known).symm, fun _ => rfl, quiet⟩
  | unfinished number after flying waits => exact absurd flying (quiet key number)
  | finished number outcome after flying arrives => exact absurd flying (quiet key number)
  | missing outcome after unknown loaded =>
    have answered : outcome = answers key := by
      have load := steady.load key provider
      rw [loaded] at load
      exact load
    have same : cache.outcome answers key = outcome := by
      rw [answered, outcome_of_unknown unknown]
    refine ⟨same.symm, outcome_settle (cache.record _) same, ?_⟩
    intro other number flying
    rw [slot?_settle] at flying
    split at flying
    · cases flying
    · exact quiet other number flying

end Cache

/-- A blocking run on a store without loads in flight gives the result of the program on what it
sees, and does not change that. -/
theorem Program.run_steady (steady : source.Steady answers) {program : Program α} {store : Store}
    (quiet : store.cache.Quiet) (faithful : program.Faithful (store.view answers)) (provider : σ) :
    let result := (program.run source store).run provider
    result.1.1 = program.eval (store.view answers) ∧ result.1.2.cache.Quiet ∧
      (store.view answers).Agrees (result.1.2.view answers) := by
  induction program generalizing store provider with
  | done value => exact ⟨rfl, quiet, .refl _⟩
  | fetch key next ih =>
    obtain ⟨outcome, same, still⟩ := Cache.get_steady steady quiet key provider
    rw [run, StateT.run_bind]
    generalize (store.cache.get source key).run provider = result at outcome same still
    obtain ⟨⟨given, cache⟩, after⟩ := result
    have agrees := store.agrees_of_outcome_eq same
    change given = store.cache.outcome answers key at outcome
    subst outcome
    have rest : (next (store.cache.outcome answers key)).Faithful (store.view answers) := faithful
    obtain ⟨value, quiet', agrees'⟩ := ih _ still (rest.of_agrees agrees) after
    exact ⟨value.trans (eval_of_agrees rest agrees), quiet', agrees.trans agrees'⟩
  | compileRules spec value next ih =>
    have agrees := store.agrees_rulesOf answers faithful.1
    have still : (store.rulesOf spec value).2.cache.Quiet := by
      rw [store.cache_rulesOf]
      exact quiet
    obtain ⟨value', quiet', agrees'⟩ := ih _ still (faithful.2.of_agrees agrees) provider
    exact ⟨value'.trans (eval_of_agrees faithful.2 agrees), quiet', agrees.trans agrees'⟩
  | compileNames spec value next ih =>
    have agrees := store.agrees_namesOf answers faithful.1
    have still : (store.namesOf spec value).2.cache.Quiet := by
      rw [store.cache_namesOf]
      exact quiet
    obtain ⟨value', quiet', agrees'⟩ := ih _ still (faithful.2.of_agrees agrees) provider
    exact ⟨value'.trans (eval_of_agrees faithful.2 agrees), quiet', agrees.trans agrees'⟩

/-! ## Runs that do not block -/

namespace Cache

def landed (cache : Cache) (answers : DataKey → Outcome) (key : DataKey) (number : Nat) : Cache :=
  (cache.finish number (answers key)).settle key (answers key)

theorem loading_of_landed {cache : Cache} {key other : DataKey} {number flight : Nat}
    (flying : (cache.landed answers key number).slot? other = some (.loading flight)) :
    other ≠ key ∧ cache.slot? other = some (.loading flight) := by
  rw [landed, slot?_settle] at flying
  split at flying
  · cases flying
  · rename_i elsewhere
    exact ⟨elsewhere, flying⟩

theorem outcome_landed (answers : DataKey → Outcome) {cache : Cache} {key : DataKey} {number : Nat}
    (here : cache.slot? key = some (.loading number)) (other : DataKey) :
    (cache.landed answers key number).outcome answers other = cache.outcome answers other :=
  outcome_settle (cache.finish number (answers key)) (outcome_of_loading here) other

theorem Flying.landed {cache : Cache} (flying : cache.Flying answers) {key : DataKey} {number : Nat}
    (here : cache.slot? key = some (.loading number)) :
    (cache.landed answers key number).Flying answers := by
  intro other flight aloft
  obtain ⟨elsewhere, aloft⟩ := loading_of_landed aloft
  obtain ⟨load, found, same, due⟩ := flying other flight aloft
  refine ⟨load, ?_, same, due⟩
  change (cache.finish number (answers key)).history[flight]? = some load
  rw [getElem?_finish, found, Option.map_some, if_neg]
  rintro rfl
  obtain ⟨load', found', same', -⟩ := flying key number here
  rw [found] at found'
  cases found'
  exact elsewhere (same.symm.trans same')

theorem Flying.startFlight {cache : Cache} (flying : cache.Flying answers) (key : DataKey) :
    (cache.startFlight key).Flying answers := by
  intro other flight aloft
  rw [slot?_startFlight] at aloft
  split at aloft
  · rename_i here
    cases aloft
    exact ⟨_, List.getElem?_concat_length, here.symm, nofun⟩
  · obtain ⟨load, found, due⟩ := flying other flight aloft
    refine ⟨load, ?_, due⟩
    rw [Cache.startFlight, List.getElem?_append_left (List.getElem?_eq_some_iff.mp found).1, found]

theorem request_of_unknown {cache : Cache} {key : DataKey} (unknown : cache.slot? key = none) :
    cache.request key = (.flight cache.loadCount, cache.startFlight key) := by
  rw [request, unknown]
  rfl

theorem request_of_settled {cache : Cache} {key : DataKey} {outcome : Outcome}
    (known : cache.slot? key = some (.settled outcome)) :
    cache.request key = (.settled outcome, cache) := by
  rw [request, known]

theorem request_of_loading {cache : Cache} {key : DataKey} {number : Nat}
    (flying : cache.slot? key = some (.loading number)) :
    cache.request key = (.flight number, cache) := by
  rw [request, flying]

theorem outcome_startFlight (answers : DataKey → Outcome) {cache : Cache} {key : DataKey}
    (unknown : cache.slot? key = none) (other : DataKey) :
    (cache.startFlight key).outcome answers other = cache.outcome answers other := by
  by_cases here : other = key
  · rw [here, outcome_of_unknown unknown]
    exact outcome_of_loading (by rw [slot?_startFlight, if_pos rfl])
  · rw [Cache.outcome, slot?_startFlight, if_neg here]
    rfl

theorem await_steady (steady : source.Steady answers) {cache : Cache} {key : DataKey} {number : Nat}
    (here : cache.slot? key = some (.loading number)) (due : cache.Due answers number key)
    (provider : σ) :
    let result := (cache.await source key number).run provider
    (result.1 = (none, cache) ∧ ((source.advance key).run provider).1 = none) ∨
      result.1 = (some (answers key), cache.landed answers key number) := by
  obtain ⟨load, found, rfl, due⟩ := due
  have polled := cache.pollFlight_polled source number provider
  rw [await, StateT.run_bind]
  generalize (cache.pollFlight source number).run provider = result at polled
  cases polled with
  | unfinished after waits => exact .inl ⟨rfl, congrArg Prod.fst (waits load found).2⟩
  | finished outcome after arrives =>
    have answered : outcome = answers load.key := by
      obtain ⟨load', found', comes⟩ := arrives
      rw [found] at found'
      cases found'
      rcases comes with brought | ⟨-, brought⟩
      · exact due outcome brought
      · exact steady.advance load.key provider outcome (congrArg Prod.fst brought)
    subst answered
    refine .inr ?_
    change (some (answers load.key), (cache.finish number (answers load.key)).land _ _) = _
    rw [land, slot?_finish, here, landed]

end Cache

def Activity.awaits? : Activity α → Option DataKey
  | .finished _ => none
  | .waiting key _ _ => some key

def Activity.Means (activity : Activity α) (answers : DataKey → Outcome) (value : α)
    (store : Store) : Prop :=
  match activity with
  | .finished result => result = value
  | .waiting key number next =>
    store.cache.slot? key = some (.loading number) ∧
      (next (answers key)).Faithful (store.view answers) ∧
        (next (answers key)).eval (store.view answers) = value

/-- An activity and its store are on the way from a store to a result. Of the loads in flight all
but the one that is awaited were in flight before. -/
structure Course (answers : DataKey → Outcome) (start : Store) (value : α) (activity : Activity α)
    (now : Store) : Prop where
  means : activity.Means answers value now
  flying : now.cache.Flying answers
  agrees : (start.view answers).Agrees (now.view answers)
  others : ∀ key number, now.cache.slot? key = some (.loading number) →
    start.cache.slot? key = some (.loading number) ∨ activity.awaits? = some key

def Store.landed (store : Store) (answers : DataKey → Outcome) (key : DataKey) (number : Nat) :
    Store :=
  { store with cache := store.cache.landed answers key number }

theorem Activity.poll_waiting (steady : source.Steady answers) {store : Store} {key : DataKey}
    {number : Nat} (next : Outcome → Program α)
    (here : store.cache.slot? key = some (.loading number))
    (due : store.cache.Due answers number key) (provider : σ) :
    let result := ((Activity.waiting key number next).poll source store).run provider
    (result.1 = (.waiting key number next, store) ∧ ((source.advance key).run provider).1 = none) ∨
      ∃ after, result =
        ((next (answers key)).advance source (store.landed answers key number)).run after := by
  have awaited := Cache.await_steady steady here due provider
  rw [poll, StateT.run_bind]
  generalize (store.cache.await source key number).run provider = result at awaited
  obtain ⟨result, after⟩ := result
  rcases awaited with ⟨waits, still⟩ | landed
  · cases waits
    exact .inl ⟨rfl, still⟩
  · cases landed
    exact .inr ⟨after, rfl⟩

theorem Activity.poll_course (steady : source.Steady answers) {start store : Store} {key : DataKey}
    {number : Nat} {next : Outcome → Program α}
    (goes : ∀ {later : Store}, later.cache.Flying answers →
      (next (answers key)).Faithful (later.view answers) → ∀ provider,
        let result := ((next (answers key)).advance source later).run provider
        Course answers later ((next (answers key)).eval (later.view answers)) result.1.1 result.1.2)
    (here : store.cache.slot? key = some (.loading number)) (flying : store.cache.Flying answers)
    (faithful : (next (answers key)).Faithful (store.view answers))
    (agrees : (start.view answers).Agrees (store.view answers))
    (before : ∀ other flight, other ≠ key → store.cache.slot? other = some (.loading flight) →
      start.cache.slot? other = some (.loading flight)) (provider : σ) :
    let result := ((Activity.waiting key number next).poll source store).run provider
    Course answers start ((next (answers key)).eval (store.view answers)) result.1.1 result.1.2 := by
  have polled := Activity.poll_waiting steady next here (flying key number here) provider
  generalize ((Activity.waiting key number next).poll source store).run provider = result at polled
  obtain ⟨⟨activity, now⟩, rest⟩ := result
  rcases polled with ⟨waits, -⟩ | ⟨after, landed⟩
  · cases waits
    refine ⟨⟨here, faithful, rfl⟩, flying, agrees, ?_⟩
    intro other flight aloft
    by_cases same : other = key
    · exact .inr (congrArg some same.symm)
    · exact .inl (before other flight same aloft)
  · have looks : (store.view answers).Agrees ((store.landed answers key number).view answers) :=
      store.agrees_of_outcome_eq (Cache.outcome_landed answers here)
    have course := goes (flying.landed here) (faithful.of_agrees looks) after
    rw [← landed] at course
    refine ⟨?_, course.flying, (agrees.trans looks).trans course.agrees, ?_⟩
    · rw [← Program.eval_of_agrees faithful looks]
      exact course.means
    · intro other flight aloft
      rcases course.others other flight aloft with earlier | awaited
      · obtain ⟨elsewhere, earlier⟩ := Cache.loading_of_landed earlier
        exact .inl (before other flight elsewhere earlier)
      · exact .inr awaited

theorem Program.advance_course (steady : source.Steady answers) {program : Program α}
    {store : Store} (flying : store.cache.Flying answers)
    (faithful : program.Faithful (store.view answers)) (provider : σ) :
    let result := (program.advance source store).run provider
    Course answers store (program.eval (store.view answers)) result.1.1 result.1.2 := by
  induction program generalizing store provider with
  | done value => exact ⟨rfl, flying, .refl _, fun _ _ => .inl⟩
  | fetch key next ih =>
    have goes : ∀ {later : Store}, later.cache.Flying answers →
        (next (answers key)).Faithful (later.view answers) → ∀ provider,
          let result := ((next (answers key)).advance source later).run provider
          Course answers later ((next (answers key)).eval (later.view answers))
            result.1.1 result.1.2 :=
      fun flying faithful provider => ih _ flying faithful provider
    have seen : (store.view answers).outcome key = store.cache.outcome answers key := rfl
    rw [Faithful, seen] at faithful
    rw [advance, eval, seen]
    cases slot : store.cache.slot? key with
    | none =>
      have looks := store.agrees_of_outcome_eq (Cache.outcome_startFlight answers slot)
      rw [Cache.outcome_of_unknown slot] at faithful ⊢
      rw [Cache.request_of_unknown slot, ← eval_of_agrees faithful looks]
      refine Activity.poll_course steady goes ?_ (flying.startFlight key)
        (faithful.of_agrees looks) looks ?_ provider
      · rw [Cache.slot?_startFlight, if_pos rfl]
      · intro other flight elsewhere aloft
        rwa [Cache.slot?_startFlight, if_neg elsewhere] at aloft
    | some known =>
      cases known with
      | settled outcome =>
        rw [Cache.outcome_of_settled slot] at faithful ⊢
        rw [Cache.request_of_settled slot]
        exact ih outcome flying faithful provider
      | loading number =>
        rw [Cache.outcome_of_loading slot] at faithful ⊢
        rw [Cache.request_of_loading slot]
        exact Activity.poll_course steady goes slot flying faithful (.refl _)
          (fun _ _ _ => id) provider
  | compileRules spec value next ih =>
    have agrees := store.agrees_rulesOf answers faithful.1
    have same := store.cache_rulesOf spec value
    have course := ih _ (same.symm ▸ flying) (faithful.2.of_agrees agrees) provider
    rw [eval_of_agrees faithful.2 agrees] at course
    exact ⟨course.means, course.flying, agrees.trans course.agrees, same ▸ course.others⟩
  | compileNames spec value next ih =>
    have agrees := store.agrees_namesOf answers faithful.1
    have same := store.cache_namesOf spec value
    have course := ih _ (same.symm ▸ flying) (faithful.2.of_agrees agrees) provider
    rw [eval_of_agrees faithful.2 agrees] at course
    exact ⟨course.means, course.flying, agrees.trans course.agrees, same ▸ course.others⟩

theorem Course.poll (steady : source.Steady answers) {start now : Store} {value : α}
    {activity : Activity α} (course : Course answers start value activity now) (provider : σ) :
    let result := (activity.poll source now).run provider
    Course answers start value result.1.1 result.1.2 := by
  cases activity with
  | finished result => exact course
  | waiting key number next =>
    obtain ⟨here, faithful, rfl⟩ := course.means
    refine Activity.poll_course steady ?_ here course.flying faithful course.agrees ?_ provider
    · exact fun flying faithful => Program.advance_course steady flying faithful
    · intro other flight elsewhere aloft
      refine (course.others other flight aloft).resolve_right fun awaited => ?_
      exact elsewhere (Option.some.inj awaited).symm

/-! ## Polling to the end -/

def Program.progress (source : Source (StateM σ)) (providers : Nat → σ) (program : Program α)
    (store : Store) : Nat → Activity α × Store
  | 0 => ((program.advance source store).run (providers 0)).1
  | time + 1 =>
    let (activity, now) := program.progress source providers store time
    ((activity.poll source now).run (providers (time + 1))).1

/-- Whoever waits for a load finds it finished some time. -/
def Source.Fair (source : Source (StateM σ)) (providers : Nat → σ) : Prop :=
  ∀ key time, ∃ later, time ≤ later ∧ ((source.advance key).run (providers later)).1 ≠ none

namespace Program

variable {providers : Nat → σ} {program : Program α} {store : Store}

theorem progress_course (steady : source.Steady answers) (flying : store.cache.Flying answers)
    (faithful : program.Faithful (store.view answers)) (providers : Nat → σ) (time : Nat) :
    let now := program.progress source providers store time
    Course answers store (program.eval (store.view answers)) now.1 now.2 := by
  induction time with
  | zero => exact advance_course steady flying faithful (providers 0)
  | succ time ih => exact Course.poll steady ih (providers (time + 1))

theorem exists_landed (steady : source.Steady answers) (fair : source.Fair providers)
    {key : DataKey} {number : Nat} {next : Outcome → Program α} {now : Store} {time : Nat}
    (waiting : program.progress source providers store time = (.waiting key number next, now))
    (here : now.cache.slot? key = some (.loading number)) (due : now.cache.Due answers number key) :
    ∃ later provider, program.progress source providers store later =
      (((next (answers key)).advance source (now.landed answers key number)).run provider).1 := by
  obtain ⟨arrival, late, arrives⟩ := fair key (time + 1)
  obtain ⟨polls, rfl⟩ := Nat.exists_eq_add_of_le late
  -- The flight arrives at that time at the latest; until then every poll finds the wait as it was.
  induction polls generalizing time with
  | zero =>
    have polled := Activity.poll_waiting steady next here due (providers (time + 1))
    obtain ⟨-, still⟩ | ⟨after, landed⟩ := polled
    · exact absurd still arrives
    · refine ⟨time + 1, after, ?_⟩
      rw [progress, waiting]
      exact congrArg Prod.fst landed
  | succ polls ih =>
    have polled := Activity.poll_waiting steady next here due (providers (time + 1))
    obtain ⟨waits, -⟩ | ⟨after, landed⟩ := polled
    · refine @ih (time + 1) ?_ (Nat.le_add_right _ _) ?_
      · rw [progress, waiting]
        exact waits
      · rwa [Nat.add_right_comm, Nat.add_assoc (time + 1)]
    · refine ⟨time + 1, after, ?_⟩
      rw [progress, waiting]
      exact congrArg Prod.fst landed

theorem exists_finished_of_advance (steady : source.Steady answers) (fair : source.Fair providers)
    {rest : Program α} {now : Store} {time : Nat} {provider : σ} (flying : now.cache.Flying answers)
    (there : program.progress source providers store time =
      ((rest.advance source now).run provider).1) :
    ∃ later value, (program.progress source providers store later).1 = .finished value := by
  induction rest generalizing now time provider with
  | done value => exact ⟨time, value, congrArg Prod.fst there⟩
  | fetch key next ih =>
    -- A program that is polled for the first time while its flight is under way.
    have polls : ∀ (now : Store) {number : Nat}, now.cache.Flying answers →
        now.cache.slot? key = some (.loading number) →
        program.progress source providers store time =
          (((Activity.waiting key number next).poll source now).run provider).1 →
        ∃ later value, (program.progress source providers store later).1 = .finished value := by
      intro now number flying here there
      have due := flying key number here
      rcases Activity.poll_waiting steady next here due provider with ⟨waits, -⟩ | ⟨after, landed⟩
      · obtain ⟨later, after, landed⟩ := exists_landed steady fair (there.trans waits) here due
        exact ih (answers key) (flying.landed here) landed
      · exact ih (answers key) (flying.landed here) (there.trans (congrArg Prod.fst landed))
    rw [advance] at there
    cases slot : now.cache.slot? key with
    | none =>
      rw [Cache.request_of_unknown slot] at there
      refine polls { now with cache := now.cache.startFlight key } (flying.startFlight key) ?_ there
      rw [Cache.slot?_startFlight, if_pos rfl]
    | some known =>
      cases known with
      | settled outcome =>
        rw [Cache.request_of_settled slot] at there
        exact ih outcome flying there
      | loading number =>
        rw [Cache.request_of_loading slot] at there
        exact polls now flying slot there
  | compileRules spec value next ih =>
    exact ih _ ((now.cache_rulesOf spec value).symm ▸ flying) there
  | compileNames spec value next ih =>
    exact ih _ ((now.cache_namesOf spec value).symm ▸ flying) there

theorem exists_finished (steady : source.Steady answers) (fair : source.Fair providers)
    (flying : store.cache.Flying answers) :
    ∃ time value, (program.progress source providers store time).1 = .finished value := by
  have first : program.progress source providers store 0 =
      ((program.advance source store).run (providers 0)).1 := rfl
  exact exists_finished_of_advance steady fair flying first

/-! ## Results, before and after use -/

/-- The result of a program on a store, however it is run: waiting for datasets, or polled until it
is done, which happens if all loads are finished some time. -/
structure Gives (source : Source (StateM σ)) (store : Store) (program : Program α) (value : α) :
    Prop where
  run : ∀ provider, ((program.run source store).run provider).1.1 = value
  polled : ∀ (providers : Nat → σ) time result,
    (program.progress source providers store time).1 = .finished result → result = value
  ends : ∀ providers, source.Fair providers →
    ∃ time, (program.progress source providers store time).1 = .finished value

theorem eq_of_finished (steady : source.Steady answers) (flying : store.cache.Flying answers)
    (faithful : program.Faithful (store.view answers)) {time : Nat} {result : α}
    (finished : (program.progress source providers store time).1 = .finished result) :
    result = program.eval (store.view answers) := by
  have means := (progress_course steady flying faithful providers time).means
  rw [finished] at means
  exact means

theorem gives_eval (steady : source.Steady answers) (quiet : store.cache.Quiet)
    (faithful : program.Faithful (store.view answers)) :
    program.Gives source store (program.eval (store.view answers)) where
  run := fun provider => (run_steady steady quiet faithful provider).1
  polled := fun _ _ _ => eq_of_finished steady (quiet.flying answers) faithful
  ends := by
    intro providers fair
    obtain ⟨time, result, finished⟩ := exists_finished steady fair (quiet.flying answers)
    refine ⟨time, ?_⟩
    rw [finished, eq_of_finished steady (quiet.flying answers) faithful finished]

end Program

/-- A store after some use: programs that compile only what they fetch have been run on it, one
after another, in either way. -/
inductive Store.Reaches (source : Source (StateM σ)) (store : Store) : Store → Prop
  | start : Reaches source store store
  | run {α : Type} {now : Store} (program : Program α) (faithful : ∀ view, program.Faithful view)
      (provider : σ) (used : Reaches source store now) :
      Reaches source store ((program.run source now).run provider).1.2
  | polled {α : Type} {now : Store} (program : Program α)
      (faithful : ∀ view, program.Faithful view) (providers : Nat → σ) (time : Nat) (value : α)
      (finished : (program.progress source providers now time).1 = .finished value)
      (used : Reaches source store now) :
      Reaches source store (program.progress source providers now time).2

theorem Store.Reaches.agrees (steady : source.Steady answers) {store now : Store}
    (reaches : store.Reaches source now) (quiet : store.cache.Quiet) :
    now.cache.Quiet ∧ (store.view answers).Agrees (now.view answers) := by
  induction reaches with
  | start => exact ⟨quiet, .refl _⟩
  | run program faithful provider used ih =>
    obtain ⟨still, agrees⟩ := ih
    obtain ⟨-, quiet', agrees'⟩ := Program.run_steady steady still (faithful _) provider
    exact ⟨quiet', agrees.trans agrees'⟩
  | @polled α now program faithful providers time value finished used ih =>
    obtain ⟨still, agrees⟩ := ih
    have course := Program.progress_course steady (still.flying answers) (faithful _) providers time
    refine ⟨?_, agrees.trans course.agrees⟩
    intro key number flying
    rcases course.others key number flying with before | awaited
    · exact still key number before
    · rw [finished] at awaited
      cases awaited

theorem Store.Reaches.gives (steady : source.Steady answers) {store now : Store}
    (reaches : store.Reaches source now) (quiet : store.cache.Quiet) {program : Program α}
    (faithful : ∀ view, program.Faithful view) :
    program.Gives source now (program.eval (store.view answers)) := by
  obtain ⟨still, agrees⟩ := reaches.agrees steady quiet
  have gives := Program.gives_eval steady still (faithful _)
  rwa [Program.eval_of_agrees (faithful _) agrees] at gives

end Postal
