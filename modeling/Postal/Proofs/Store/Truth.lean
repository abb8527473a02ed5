import Postal.Proofs.Store.LoadOnce
import Postal.Proofs.Store.Operation

namespace Postal

variable {σ α : Type} {source : Source (StateM σ)} {answers : DataKey → Outcome}

namespace Cache

structure TrueTo (cache : Cache) (answers : DataKey → Outcome) : Prop where
  settled : ∀ {key outcome}, cache.slot? key = some (.settled outcome) → outcome = answers key
  loading : ∀ {key number}, cache.slot? key = some (.loading number) → cache.Asked number key
  brought : ∀ {number key outcome}, cache.Brought number key outcome → outcome = answers key

variable {cache : Cache} {key : DataKey} {number : Nat}

theorem not_brought_empty {outcome : Outcome} : ¬ ({} : Cache).Brought number key outcome := by
  rintro ⟨load, found, -⟩
  cases found

theorem TrueTo.empty (answers : DataKey → Outcome) : ({} : Cache).TrueTo answers where
  settled := nofun
  loading := nofun
  brought := fun brought => absurd brought not_brought_empty

theorem TrueTo.clear (h : cache.TrueTo answers) : cache.clear.TrueTo answers where
  settled := nofun
  loading := nofun
  brought := h.brought

theorem TrueTo.settle (h : cache.TrueTo answers) (key : DataKey) :
    (cache.settle key (answers key)).TrueTo answers where
  settled := by
    intro other outcome known
    rw [slot?_settle] at known
    split at known
    · rename_i here
      cases known
      rw [here]
    · exact h.settled known
  loading := by
    intro other number flying
    rw [slot?_settle] at flying
    split at flying
    · cases flying
    · exact h.loading flying
  brought := h.brought

theorem TrueTo.finish (h : cache.TrueTo answers) (asked : cache.Asked number key) :
    (cache.finish number (answers key)).TrueTo answers ∧
      cache.Later (cache.finish number (answers key)) := by
  obtain ⟨load, found, rfl⟩ := asked
  have brings : cache.Brings number (answers load.key) :=
    ⟨load, found, fun known brought => h.brought ⟨load, found, rfl, brought⟩⟩
  have later := brings.later_finish
  refine ⟨⟨h.settled, fun flying => later.asked (h.loading flying), ?_⟩, later⟩
  rintro other key outcome ⟨finished, there, rfl, brought⟩
  rw [getElem?_finish, Option.map_eq_some_iff] at there
  obtain ⟨old, before, rfl⟩ := there
  by_cases here : number = other
  · subst here
    rw [found] at before
    cases before
    rw [if_pos rfl] at brought ⊢
    exact (Option.some.inj brought).symm
  · rw [if_neg here] at brought ⊢
    exact h.brought ⟨old, before, rfl, brought⟩

theorem TrueTo.record (h : cache.TrueTo answers) (load : Load)
    (honest : ∀ outcome, load.outcome = some outcome → outcome = answers load.key) :
    (cache.record load).TrueTo answers ∧ cache.Later (cache.record load) := by
  have later : cache.Later (cache.record load) := .of_history_append rfl
  refine ⟨⟨h.settled, fun flying => later.asked (h.loading flying), ?_⟩, later⟩
  rintro other key outcome ⟨found, there, rfl, brought⟩
  rw [Cache.record, List.getElem?_append] at there
  split at there
  · exact h.brought ⟨found, there, rfl, brought⟩
  · rw [List.getElem?_singleton] at there
    split at there
    · cases there
      exact honest outcome brought
    · cases there

theorem TrueTo.startFlight (h : cache.TrueTo answers) (key : DataKey) :
    (cache.startFlight key).TrueTo answers ∧ cache.Later (cache.startFlight key) ∧
      (cache.startFlight key).Asked cache.loadCount key := by
  have recorded := (h.record ⟨key, .started, none⟩ nofun).1
  have later : cache.Later (cache.startFlight key) := .of_history_append rfl
  have started : (cache.startFlight key).Asked cache.loadCount key :=
    ⟨_, List.getElem?_concat_length, rfl⟩
  refine ⟨⟨?_, ?_, recorded.brought⟩, later, started⟩
  · intro other outcome known
    rw [slot?_startFlight] at known
    split at known
    · cases known
    · exact h.settled known
  · intro other number flying
    rw [slot?_startFlight] at flying
    split at flying
    · rename_i here
      cases flying
      rw [here]
      exact started
    · exact later.asked (h.loading flying)

theorem TrueTo.land (h : cache.TrueTo answers) (key : DataKey) :
    (cache.land key (answers key)).TrueTo answers := by
  unfold Cache.land
  split
  · exact h.settle key
  · exact h

theorem TrueTo.answer_of_arrives (h : cache.TrueTo answers) (steady : source.Steady answers)
    (asked : cache.Asked number key) {outcome : Outcome} {provider after : σ}
    (arrives : cache.Arrives source number provider outcome after) : outcome = answers key := by
  obtain ⟨load, found, rfl⟩ := asked
  obtain ⟨load', found', comes⟩ := arrives
  rw [found] at found'
  cases found'
  rcases comes with brought | ⟨-, brought⟩
  · exact h.brought ⟨load, found, rfl, brought⟩
  · exact steady.advance load.key provider outcome (congrArg Prod.fst brought)

theorem TrueTo.get (h : cache.TrueTo answers) (steady : source.Steady answers) (key : DataKey)
    (provider : σ) :
    let result := (cache.get source key).run provider
    result.1.2.TrueTo answers ∧ cache.Later result.1.2 ∧
      (result.1.1 = answers key ∨ result.1.1 = .error (.pending key)) := by
  have got := cache.get_got source key provider
  generalize (cache.get source key).run provider = result at got
  cases got with
  | settled outcome known => exact ⟨h, .refl _, .inl (h.settled known)⟩
  | unfinished number after flying waits => exact ⟨h, .refl _, .inr rfl⟩
  | finished number outcome after flying arrives =>
    have asked := h.loading flying
    cases h.answer_of_arrives steady asked arrives
    obtain ⟨kept, later⟩ := h.finish asked
    exact ⟨kept.settle key, later.trans (.of_history_eq rfl), .inl rfl⟩
  | missing outcome after unknown loaded =>
    have answered := steady.load key provider
    rw [loaded] at answered
    cases answered
    have known : ∀ outcome, some (answers key) = some outcome → outcome = answers key :=
      fun _ same => (Option.some.inj same).symm
    obtain ⟨kept, later⟩ := h.record ⟨key, .blocking, some (answers key)⟩ known
    exact ⟨kept.settle key, later.trans (.of_history_eq rfl), .inl rfl⟩

theorem TrueTo.await (h : cache.TrueTo answers) (steady : source.Steady answers)
    (asked : cache.Asked number key) (provider : σ) :
    let result := (cache.await source key number).run provider
    result.1.2.TrueTo answers ∧ cache.Later result.1.2 ∧
      (result.1.1 = none ∨ result.1.1 = some (answers key)) := by
  have polled := cache.pollFlight_polled source number provider
  rw [Cache.await, StateT.run_bind]
  generalize (cache.pollFlight source number).run provider = result at polled
  cases polled with
  | unfinished after waits => exact ⟨h, .refl _, .inl rfl⟩
  | finished outcome after arrives =>
    cases h.answer_of_arrives steady asked arrives
    obtain ⟨kept, later⟩ := h.finish asked
    exact ⟨kept.land key, later.trans (.of_history_eq (land_history _ _ _)), .inr rfl⟩

end Cache

def View.ofAnswers (answers : DataKey → Outcome) : View where
  outcome := answers
  rules := Governing.ofJson
  names spec value := (NameTable.ofJson spec value).toOption

structure Store.TrueTo (store : Store) (answers : DataKey → Outcome) : Prop where
  cache : store.cache.TrueTo answers
  rules : ∀ {spec rules}, store.rulesets.lookup spec = some rules →
    ∃ value, answers ⟨DataKey.address, spec⟩ = .ok (some value) ∧
      (View.ofAnswers answers).rules spec value = rules
  names : ∀ {spec table}, store.nameTables.lookup spec = some table →
    ∃ value, answers ⟨DataKey.countryNames, spec⟩ = .ok (some value) ∧
      (View.ofAnswers answers).names spec value = some table

namespace Store

variable {store : Store} {spec : String} {value : Json}

def fresh (locale : Locale) : Store := { defaultLocale := locale }

theorem fresh_trueTo (locale : Locale) (answers : DataKey → Outcome) :
    (fresh locale).TrueTo answers :=
  ⟨.empty answers, nofun, nofun⟩

theorem view_fresh (locale : Locale) (answers : DataKey → Outcome) :
    (fresh locale).view answers = View.ofAnswers answers := by
  have names : ((fresh locale).view answers).names = (View.ofAnswers answers).names := by
    funext spec value
    exact (fresh locale).namesOf_fst spec value
  rw [view, View.ofAnswers]
  congr 1

theorem TrueTo.clear (h : store.TrueTo answers) : store.clear.TrueTo answers :=
  ⟨h.cache.clear, h.rules, h.names⟩

theorem TrueTo.withCache (h : store.TrueTo answers) {cache : Cache} (kept : cache.TrueTo answers) :
    Store.TrueTo { store with cache } answers :=
  ⟨kept, h.rules, h.names⟩

theorem TrueTo.rulesOf (h : store.TrueTo answers)
    (there : answers ⟨DataKey.address, spec⟩ = .ok (some value)) :
    (store.rulesOf spec value).1 = (View.ofAnswers answers).rules spec value ∧
      (store.rulesOf spec value).2.TrueTo answers := by
  have made : (store.rulesOf spec value).1 = (View.ofAnswers answers).rules spec value := by
    rw [rulesOf_fst]
    cases kept : store.rulesets.lookup spec with
    | none => rfl
    | some rules =>
      obtain ⟨value', there', rfl⟩ := h.rules kept
      rw [there] at there'
      cases there'
      rfl
  refine ⟨made, store.cache_rulesOf spec value ▸ h.cache, ?_, ?_⟩
  · intro other rules kept
    rw [lookup_rulesOf] at kept
    split at kept
    · rename_i here
      subst here
      exact ⟨value, there, made.symm.trans (Option.some.inj kept)⟩
    · exact h.rules kept
  · intro other table kept
    have same : (store.rulesOf spec value).2.nameTables = store.nameTables := by
      unfold Store.rulesOf
      split <;> rfl
    rw [same] at kept
    exact h.names kept

theorem TrueTo.namesOf (h : store.TrueTo answers)
    (there : answers ⟨DataKey.countryNames, spec⟩ = .ok (some value)) :
    (store.namesOf spec value).1 = (View.ofAnswers answers).names spec value ∧
      (store.namesOf spec value).2.TrueTo answers := by
  have made : (store.namesOf spec value).1 = (View.ofAnswers answers).names spec value := by
    rw [namesOf_fst]
    cases kept : store.nameTables.lookup spec with
    | none => rfl
    | some table =>
      obtain ⟨value', there', usable⟩ := h.names kept
      rw [there] at there'
      cases there'
      rw [usable, Option.some_or]
  refine ⟨made, store.cache_namesOf spec value ▸ h.cache, ?_, ?_⟩
  · intro other rules kept
    have same : (store.namesOf spec value).2.rulesets = store.rulesets := by
      unfold Store.namesOf
      split
      · rfl
      · split <;> rfl
    rw [same] at kept
    exact h.rules kept
  · intro other table kept
    rw [lookup_namesOf] at kept
    split at kept
    · rename_i here
      subst here
      exact ⟨value, there, made.symm.trans kept⟩
    · exact h.names kept

end Store

namespace Program

variable {program : Program α} {store : Store}

def met (source : Source (StateM σ)) : Program α → Store → σ → List Outcome
  | done _, _, _ => []
  | fetch key next, store, provider =>
    let ((outcome, cache), provider) := (store.cache.get source key).run provider
    outcome :: (next outcome).met source { store with cache } provider
  | compileRules spec value next, store, provider =>
    let (rules, store) := store.rulesOf spec value
    (next rules).met source store provider
  | compileNames spec value next, store, provider =>
    let (table, store) := store.namesOf spec value
    (next table).met source store provider

def Meets (answers : DataKey → Outcome) (key : DataKey) (outcome : Outcome) : Prop :=
  outcome = answers key ∨ outcome = .error (.pending key)

theorem Meets.value {key : DataKey} {value : Json} (h : Meets answers key (.ok (some value))) :
    answers key = .ok (some value) := by
  rcases h with same | ⟨⟨⟩⟩
  exact same.symm

/-- A blocking run keeps a store true to the source. If it is not told that a dataset is still
loading, it gives the result of the program on the source. -/
theorem run_true (steady : source.Steady answers) (h : store.TrueTo answers)
    (ensures : program.Ensures (Meets answers) fun _ => True) (provider : σ) :
    let result := (program.run source store).run provider
    result.1.2.TrueTo answers ∧ store.cache.Later result.1.2.cache ∧
      ((∀ outcome ∈ program.met source store provider, pends outcome = false) →
        result.1.1 = program.eval (View.ofAnswers answers)) := by
  induction program generalizing store provider with
  | done value => exact ⟨h, .refl _, fun _ => rfl⟩
  | fetch key next ih =>
    obtain ⟨kept, later, meets⟩ := h.cache.get steady key provider
    rw [run, StateT.run_bind, met]
    generalize (store.cache.get source key).run provider = result at kept later meets
    obtain ⟨⟨outcome, cache⟩, after⟩ := result
    obtain ⟨kept', later', gives⟩ := ih outcome (h.withCache kept) (ensures outcome meets) after
    refine ⟨kept', later.trans later', fun settled => ?_⟩
    rcases meets with rfl | rfl
    · exact gives fun other mem => settled other (List.mem_cons_of_mem _ mem)
    · cases settled _ List.mem_cons_self
  | compileRules spec value next ih =>
    obtain ⟨made, kept⟩ := h.rulesOf ensures.1.value
    obtain ⟨kept', later, gives⟩ := ih (store.rulesOf spec value).1 kept (ensures.2 _) provider
    rw [store.cache_rulesOf] at later
    rw [eval, ← made]
    exact ⟨kept', later, gives⟩
  | compileNames spec value next ih =>
    obtain ⟨made, kept⟩ := h.namesOf ensures.1.value
    obtain ⟨kept', later, gives⟩ := ih (store.namesOf spec value).1 kept (ensures.2 _) provider
    rw [store.cache_namesOf] at later
    rw [eval, ← made]
    exact ⟨kept', later, gives⟩

end Program

namespace Activity

variable {activity : Activity α} {store : Store} {value : α}

/-- An activity has a result, or waits for a load of a dataset with whose value it comes to it. -/
def Promises (activity : Activity α) (answers : DataKey → Outcome) (value : α) (cache : Cache) :
    Prop :=
  match activity with
  | finished result => result = value
  | waiting key number next =>
    cache.Asked number key ∧ (next (answers key)).Faithful (View.ofAnswers answers) ∧
      (next (answers key)).eval (View.ofAnswers answers) = value

theorem Promises.later {cache next : Cache} (h : activity.Promises answers value cache)
    (later : cache.Later next) : activity.Promises answers value next := by
  cases activity with
  | finished result => exact h
  | waiting key number rest => exact ⟨later.asked h.1, h.2⟩

def Goes (answers : DataKey → Outcome) (value : α) (old : Cache) (result : Activity α × Store) :
    Prop :=
  result.2.TrueTo answers ∧ old.Later result.2.cache ∧
    result.1.Promises answers value result.2.cache

theorem Goes.of_later {old middle : Cache} {result : Activity α × Store}
    (h : Goes answers value middle result) (later : old.Later middle) :
    Goes answers value old result :=
  ⟨h.1, later.trans h.2.1, h.2.2⟩

theorem poll_waiting_true (steady : source.Steady answers) (h : store.TrueTo answers)
    {key : DataKey} {number : Nat} {next : Outcome → Program α}
    (goes : ∀ {store : Store}, store.TrueTo answers → ∀ provider,
      Goes answers value store.cache (((next (answers key)).advance source store).run provider).1)
    (promises : (waiting key number next).Promises answers value store.cache) (provider : σ) :
    Goes answers value store.cache
      (((waiting key number next).poll source store).run provider).1 := by
  obtain ⟨kept, later, comes⟩ := h.cache.await steady promises.1 provider
  rw [poll, StateT.run_bind]
  generalize (store.cache.await source key number).run provider = result at kept later comes
  obtain ⟨⟨answer, cache⟩, after⟩ := result
  rcases comes with rfl | rfl
  · exact ⟨h.withCache kept, later, promises.later later⟩
  · exact (goes (h.withCache kept) after).of_later later

end Activity

namespace Program

theorem advance_true (steady : source.Steady answers) {program : Program α} {store : Store}
    (h : store.TrueTo answers) (faithful : program.Faithful (View.ofAnswers answers))
    (provider : σ) :
    Activity.Goes answers (program.eval (View.ofAnswers answers)) store.cache
      ((program.advance source store).run provider).1 := by
  induction program generalizing store provider with
  | done value => exact ⟨h, .refl _, rfl⟩
  | fetch key next ih =>
    have goes : ∀ {store : Store}, store.TrueTo answers → ∀ provider,
        Activity.Goes answers ((next (answers key)).eval (View.ofAnswers answers)) store.cache
          (((next (answers key)).advance source store).run provider).1 :=
      fun kept provider => ih _ kept faithful provider
    rw [advance]
    cases slot : store.cache.slot? key with
    | none =>
      obtain ⟨kept, later, asked⟩ := h.cache.startFlight key
      rw [Cache.request_of_unknown slot]
      exact (Activity.poll_waiting_true steady (h.withCache kept) goes ⟨asked, faithful, rfl⟩
        provider).of_later later
    | some known =>
      cases known with
      | settled outcome =>
        rw [Cache.request_of_settled slot]
        cases h.cache.settled slot
        exact goes h provider
      | loading number =>
        rw [Cache.request_of_loading slot]
        exact Activity.poll_waiting_true steady h goes ⟨h.cache.loading slot, faithful, rfl⟩
          provider
  | compileRules spec value next ih =>
    obtain ⟨made, kept⟩ := h.rulesOf faithful.1
    rw [Faithful, ← made] at faithful
    have goes := ih (store.rulesOf spec value).1 kept faithful.2 provider
    rw [store.cache_rulesOf] at goes
    rw [eval, ← made]
    exact goes
  | compileNames spec value next ih =>
    obtain ⟨made, kept⟩ := h.namesOf faithful.1
    rw [Faithful, ← made] at faithful
    have goes := ih (store.namesOf spec value).1 kept faithful.2 provider
    rw [store.cache_namesOf] at goes
    rw [eval, ← made]
    exact goes

end Program

theorem Activity.poll_true (steady : source.Steady answers) {activity : Activity α} {store : Store}
    {value : α} (h : store.TrueTo answers) (promises : activity.Promises answers value store.cache)
    (provider : σ) :
    Goes answers value store.cache ((activity.poll source store).run provider).1 := by
  cases activity with
  | finished result => exact ⟨h, .refl _, promises⟩
  | waiting key number next =>
    have faithful := promises.2.1
    obtain rfl := promises.2.2
    exact poll_waiting_true steady h
      (fun kept provider => Program.advance_true steady kept faithful provider) promises provider

namespace Program

theorem gives_of_reaches (steady : source.Steady answers) {default : Locale} {store : Store}
    (used : (Store.fresh default).Reaches source store) {program : Program α}
    (faithful : ∀ view, program.Faithful view) :
    program.Gives source store (program.eval (View.ofAnswers answers)) := by
  have gives := used.gives steady nofun faithful
  rwa [Store.view_fresh] at gives

theorem Gives.eq_eval (steady : source.Steady answers) {default : Locale}
    {program : Program α} {value : α} (gives : program.Gives source (.fresh default) value)
    (faithful : ∀ view, program.Faithful view) (provider : σ) :
    value = program.eval (View.ofAnswers answers) :=
  (gives.run provider).symm.trans ((gives_of_reaches steady .start faithful).run provider)

end Program

end Postal
