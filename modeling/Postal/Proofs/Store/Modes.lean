import Postal.Proofs.Store.Operation
import Postal.Store.Layered

namespace Postal

variable {σ α : Type} {source : Source (StateM σ)} {level : σ → σ → Prop}

/-! ## Sources -/

inductive Source.Brings (source : Source (StateM σ)) (key : DataKey) : σ → Outcome → σ → Prop
  | arrives {provider after : σ} {outcome : Outcome}
      (polled : (source.advance key).run provider = (some outcome, after)) :
      Brings source key provider outcome after
  | waits {provider next after : σ} {outcome : Outcome}
      (polled : (source.advance key).run provider = (none, next))
      (later : Brings source key next outcome after) : Brings source key provider outcome after

/-- A load that is polled brings what it gives to those who wait for it at that moment. Afterwards the
source is level with one that was waited for: both go on in the same way. -/
def Source.Resolves (source : Source (StateM σ)) (level : σ → σ → Prop) : Prop :=
  ∀ key {polled waited : σ}, level polled waited →
    ∃ after, source.Brings key polled ((source.load key).run waited).1 after ∧
      level after ((source.load key).run waited).2

/-! ## Stores -/

namespace Cache

structure Alike (first second : Cache) : Prop where
  slots : second.slots = first.slots
  loads : second.history.map (fun load => (load.key, load.outcome)) =
    first.history.map fun load => (load.key, load.outcome)

theorem putSlot_putSlot (key : DataKey) (first second : Slot) (slots : List (DataKey × Slot)) :
    putSlot key second (putSlot key first slots) = putSlot key second slots := by
  induction slots with
  | nil => simp [putSlot]
  | cons entry slots ih =>
    obtain ⟨other, kept⟩ := entry
    by_cases here : other = key
    · simp [putSlot, here]
    · simp [putSlot, here, ih]

theorem Alike.refl (cache : Cache) : cache.Alike cache :=
  ⟨rfl, rfl⟩

theorem Alike.slot? {first second : Cache} (h : first.Alike second) (key : DataKey) :
    second.slot? key = first.slot? key := by
  rw [Cache.slot?, h.slots, Cache.slot?]

theorem Alike.loadCount {first second : Cache} (h : first.Alike second) :
    second.loadCount = first.loadCount := by
  have lengths := congrArg List.length h.loads
  rwa [List.length_map, List.length_map] at lengths

def flown (cache : Cache) (key : DataKey) (outcome : Outcome) : Cache where
  slots := putSlot key (.settled outcome) cache.slots
  history := cache.history ++ [⟨key, .started, some outcome⟩]

theorem Alike.flown {first second : Cache} (h : first.Alike second) (key : DataKey)
    (outcome : Outcome) :
    ((first.record ⟨key, .blocking, some outcome⟩).settle key outcome).Alike
      (second.flown key outcome) where
  slots := by rw [Cache.flown, h.slots, settle, record]
  loads := by
    rw [Cache.flown, List.map_append, h.loads, settle, record, List.map_append]
    rfl

theorem finish_startFlight (cache : Cache) (key : DataKey) (outcome : Outcome) :
    ((cache.startFlight key).finish cache.loadCount outcome).land key outcome =
      cache.flown key outcome := by
  have flying : ((cache.startFlight key).finish cache.loadCount outcome).slot? key =
      some (.loading cache.loadCount) := by
    rw [slot?_finish, slot?_startFlight, if_pos rfl]
  rw [land, flying]
  simp only [settle, finish, startFlight, loadCount, modify_concat, putSlot_putSlot, Cache.flown]

theorem await_startFlight (source : Source (StateM σ)) (cache : Cache) (key : DataKey)
    (provider : σ) :
    ((cache.startFlight key).await source key cache.loadCount).run provider =
      match (source.advance key).run provider with
      | (none, after) => ((none, cache.startFlight key), after)
      | (some outcome, after) => ((some outcome, cache.flown key outcome), after) := by
  have found : (cache.startFlight key).history[cache.loadCount]? = some ⟨key, .started, none⟩ :=
    List.getElem?_concat_length
  rw [await, pollFlight, found, StateT.run_bind, StateT.run_bind]
  cases (source.advance key).run provider with
  | mk answer after =>
    cases answer with
    | none => rfl
    | some outcome =>
      exact congrArg (fun cache => ((some outcome, cache), after))
        (finish_startFlight cache key outcome)

end Cache

structure Store.Alike (first second : Store) : Prop where
  cache : first.cache.Alike second.cache
  rulesets : second.rulesets = first.rulesets
  nameTables : second.nameTables = first.nameTables
  defaultLocale : second.defaultLocale = first.defaultLocale

namespace Store.Alike

variable {first second : Store}

theorem refl (store : Store) : store.Alike store :=
  ⟨.refl _, rfl, rfl, rfl⟩

theorem withCache (h : first.Alike second) {cache cache' : Cache} (alike : cache.Alike cache') :
    Store.Alike { first with cache } { second with cache := cache' } :=
  ⟨alike, h.rulesets, h.nameTables, h.defaultLocale⟩

theorem rulesOf (h : first.Alike second) (spec : String) (value : Json) :
    (second.rulesOf spec value).1 = (first.rulesOf spec value).1 ∧
      (first.rulesOf spec value).2.Alike (second.rulesOf spec value).2 := by
  unfold Store.rulesOf
  rw [h.rulesets]
  split
  · exact ⟨rfl, h⟩
  · exact ⟨rfl, h.cache, rfl, h.nameTables, h.defaultLocale⟩

theorem namesOf (h : first.Alike second) (spec : String) (value : Json) :
    (second.namesOf spec value).1 = (first.namesOf spec value).1 ∧
      (first.namesOf spec value).2.Alike (second.namesOf spec value).2 := by
  unfold Store.namesOf
  rw [h.nameTables]
  split
  · exact ⟨rfl, h⟩
  · split
    · exact ⟨rfl, h.cache, h.rulesets, rfl, h.defaultLocale⟩
    · exact ⟨rfl, h⟩

end Store.Alike

/-! ## Programs -/

inductive Activity.Ends (source : Source (StateM σ)) :
    (Activity α × Store) × σ → (α × Store) × σ → Prop
  | finished (value : α) (store : Store) (provider : σ) :
      Ends source ((.finished value, store), provider) ((value, store), provider)
  | polled {key : DataKey} {number : Nat} {next : Outcome → Program α} {store : Store}
      {provider : σ} {result : (α × Store) × σ}
      (ends : Ends source (((waiting key number next).poll source store).run provider) result) :
      Ends source ((.waiting key number next, store), provider) result

theorem Activity.Ends.unique {start : (Activity α × Store) × σ} {first second : (α × Store) × σ}
    (h : Ends source start first) (h' : Ends source start second) : first = second := by
  induction h with
  | finished value store provider =>
    cases h'
    rfl
  | polled ends ih =>
    cases h' with
    | polled ends' => exact ih ends'

namespace Program

theorem ends_of_brings {key : DataKey} {next : Outcome → Program α} {store : Store}
    {provider after : σ} {outcome : Outcome} {result : (α × Store) × σ}
    (brings : source.Brings key provider outcome after)
    (ends : Activity.Ends source
      (((next outcome).advance source { store with cache := store.cache.flown key outcome }).run
        after) result) :
    Activity.Ends source
      (((Activity.waiting key store.cache.loadCount next).poll source
        { store with cache := store.cache.startFlight key }).run provider) result := by
  have polls : ∀ provider, ((Activity.waiting key store.cache.loadCount next).poll source
        { store with cache := store.cache.startFlight key }).run provider =
      match (source.advance key).run provider with
      | (none, after) => ((.waiting key store.cache.loadCount next,
          { store with cache := store.cache.startFlight key }), after)
      | (some outcome, after) =>
        ((next outcome).advance source
          { store with cache := store.cache.flown key outcome }).run after := by
    intro provider
    rw [Activity.poll, StateT.run_bind, Cache.await_startFlight]
    cases (source.advance key).run provider with
    | mk answer after => cases answer <;> rfl
  induction brings with
  | arrives polled =>
    rw [polls, polled]
    exact ends
  | waits polled later ih =>
    rw [polls, polled]
    exact .polled (ih ends)

/-- Polling a program to its end does what waiting does: it gives the same and leaves the same. -/
theorem advance_ends (resolves : source.Resolves level) (program : Program α) {first second : Store}
    (quiet : first.cache.Quiet) (alike : first.Alike second) {polled waited : σ}
    (levels : level polled waited) :
    ∃ finish, Activity.Ends source ((program.advance source second).run polled) finish ∧
      let result := (program.run source first).run waited
      finish.1.1 = result.1.1 ∧ result.1.2.Alike finish.1.2 ∧ result.1.2.cache.Quiet ∧
        level finish.2 result.2 := by
  induction program generalizing first second polled waited with
  | done value => exact ⟨_, .finished value second polled, rfl, alike, quiet, levels⟩
  | fetch key next ih =>
    rw [advance, run, Cache.get]
    cases slot : first.cache.slot? key with
    | none =>
      rw [Cache.request_of_unknown (alike.cache.slot? key ▸ slot)]
      obtain ⟨after, brings, levels'⟩ := resolves key levels
      have quiet' : ((first.cache.record ⟨key, .blocking,
          some ((source.load key).run waited).1⟩).settle key
            ((source.load key).run waited).1).Quiet := by
        intro other number flying
        rw [Cache.slot?_settle] at flying
        split at flying
        · cases flying
        · exact quiet other number flying
      obtain ⟨finish, ends, same⟩ := ih _ quiet'
        (alike.withCache (alike.cache.flown key ((source.load key).run waited).1)) levels'
      exact ⟨finish, ends_of_brings brings ends, same⟩
    | some known =>
      cases known with
      | settled outcome =>
        rw [Cache.request_of_settled (alike.cache.slot? key ▸ slot)]
        exact ih outcome quiet alike levels
      | loading number => exact absurd slot (quiet key number)
  | compileRules spec value next ih =>
    obtain ⟨same, alike'⟩ := alike.rulesOf spec value
    have quiet' : (first.rulesOf spec value).2.cache.Quiet := by
      rwa [first.cache_rulesOf]
    obtain ⟨finish, ends, given⟩ := ih (first.rulesOf spec value).1 quiet' alike' levels
    rw [← same] at ends
    exact ⟨finish, ends, given⟩
  | compileNames spec value next ih =>
    obtain ⟨same, alike'⟩ := alike.namesOf spec value
    have quiet' : (first.namesOf spec value).2.cache.Quiet := by
      rwa [first.cache_namesOf]
    obtain ⟨finish, ends, given⟩ := ih (first.namesOf spec value).1 quiet' alike' levels
    rw [← same] at ends
    exact ⟨finish, ends, given⟩

end Program

/-! ## Sources above one another -/

namespace Source

variable {layers : List (Source (StateM σ))}

def layeredLevel {ρ : Type} (level : σ → σ → Prop) (polled waited : σ × List ρ) : Prop :=
  level polled.1 waited.1 ∧ polled.2 = []

def Comes (layers : List (Source (StateM σ))) (key : DataKey)
    (found : (LayeredLoad (StateM σ) ⊕ Outcome) × σ) (outcome : Outcome) (after : σ) : Prop :=
  match found with
  | (.inr brought, provider) => brought = outcome ∧ provider = after
  | (.inl load, provider) =>
    (layered layers).Brings key (provider, [(key, load)]) outcome (after, [])

theorem Comes.brings {key : DataKey} (load : LayeredLoad (StateM σ)) {provider after : σ}
    {ongoing : List (DataKey × LayeredLoad (StateM σ))} {outcome : Outcome}
    (comes : Comes layers key ((advanceFrom load.failure key load.layers).run provider) outcome after)
    (here : (ongoing.lookup key).getD ⟨none, layers⟩ = load)
    (only : ongoing.filter (·.1 ≠ key) = []) :
    (layered layers).Brings key (provider, ongoing) outcome (after, []) := by
  generalize polled : (advanceFrom load.failure key load.layers).run provider = found at comes
  obtain ⟨later | brought, next⟩ := found
  · have polls : ((layered layers).advance key).run (provider, ongoing) =
        (none, next, [(key, later)]) := by
      rw [← here] at polled
      rw [← only]
      simp only [layered, StateT.run] at polled ⊢
      rw [polled]
    exact .waits polls comes
  · have polls : ((layered layers).advance key).run (provider, ongoing) =
        (some brought, next, []) := by
      rw [← here] at polled
      rw [← only]
      simp only [layered, StateT.run] at polled ⊢
      rw [polled]
    obtain ⟨rfl, rfl⟩ := comes
    exact .arrives polls

/-- A load from several sources comes to what waiting for it gives, from every source on. -/
theorem comes_advanceFrom (resolves : ∀ layer ∈ layers, layer.Resolves level) (key : DataKey)
    {rest : List (Source (StateM σ))} (part : ∀ layer ∈ rest, layer ∈ layers)
    (failure : Option DataError) {polled waited : σ} (levels : level polled waited) :
    let result := (loadFrom failure key (rest.map Source.load)).run waited
    ∃ after, Comes layers key ((advanceFrom failure key rest).run polled) result.1 after ∧
      level after result.2 := by
  induction rest generalizing failure polled waited with
  | nil => exact ⟨polled, ⟨rfl, rfl⟩, levels⟩
  | cons layer rest ih =>
    have later := ih fun other mem => part other (List.mem_cons_of_mem _ mem)
    obtain ⟨middle, brings, levels'⟩ := resolves layer (part layer List.mem_cons_self) key levels
    rw [List.map_cons, loadFrom, StateT.run_bind]
    generalize (layer.load key).run waited = loaded at brings levels'
    obtain ⟨outcome, waited'⟩ := loaded
    dsimp only at brings levels'
    clear levels
    -- The layer is polled until it has finished; then the next ones are asked in the same poll.
    induction brings with
    | @arrives polled middle outcome arrived =>
      rw [advanceFrom, StateT.run_bind, arrived]
      cases outcome with
      | ok value =>
        cases value with
        | some value => exact ⟨middle, ⟨rfl, rfl⟩, levels'⟩
        | none => exact later failure levels'
      | error cause => exact later (failure.or (some cause)) levels'
    | @waits polled next middle outcome waiting brings ihBrings =>
      obtain ⟨after, comes, levels⟩ := ihBrings levels'
      refine ⟨after, ?_, levels⟩
      rw [advanceFrom, StateT.run_bind, waiting]
      exact Comes.brings ⟨failure, layer :: rest⟩ comes (by simp) (by simp)

theorem resolves_layered (resolves : ∀ layer ∈ layers, layer.Resolves level) :
    (layered layers).Resolves (layeredLevel level) := by
  rintro key ⟨polled, ongoing⟩ ⟨waited, others⟩ ⟨levels, idle⟩
  dsimp only at levels idle
  subst idle
  obtain ⟨after, comes, levels'⟩ := comes_advanceFrom resolves key (fun _ => id) none levels
  exact ⟨(after, []), Comes.brings ⟨none, layers⟩ comes rfl rfl, levels', rfl⟩

/-! ## Operations -/

/-- Every operation that is polled to its end gives what it gives when it waits. It leaves the same
slots, rules and tables of names, and has asked for the same datasets in the same order. -/
def ModesAgree (source : Source (StateM σ)) (level : σ → σ → Prop) : Prop :=
  ∀ {α : Type} (operation : Operation α) (store : Store), store.cache.Quiet →
    ∀ polled waited, level polled waited →
      let waiting := (operation.program.run source store).run waited
      ∃ finish,
        (∀ other, Activity.Ends source ((operation.program.advance source store).run polled) other ↔
          other = finish) ∧
        finish.1.1 = waiting.1.1 ∧ waiting.1.2.Alike finish.1.2 ∧
        finish.1.2.cache.history.map (·.key) = waiting.1.2.cache.history.map (·.key) ∧
        finish.1.2.cache.loadCount = waiting.1.2.cache.loadCount ∧
        finish.1.2.cache.Quiet ∧ level finish.2 waiting.2

theorem modesAgree_of_resolves (resolves : source.Resolves level) : source.ModesAgree level := by
  intro α operation store quiet polled waited levels
  obtain ⟨finish, ends, value, alike, quiet', levels'⟩ :=
    Program.advance_ends resolves operation.program quiet (.refl store) levels
  have keys := congrArg (List.map Prod.fst) alike.cache.loads
  rw [List.map_map, List.map_map] at keys
  have settled : finish.1.2.cache.Quiet := by
    intro key number flying
    rw [alike.cache.slot?] at flying
    exact quiet' key number flying
  refine ⟨finish, fun other => ⟨fun ends' => ends'.unique ends, ?_⟩, value, alike, keys,
    alike.cache.loadCount, settled, levels'⟩
  rintro rfl
  exact ends

end Source

/-- If what the loads of a source bring does not depend on whether one waits for them, every operation
does the same whether it waits or is polled to its end. The same holds over any sources above one
another of which each is such a source. -/
theorem Operation.modes_agree :
    (∀ {σ : Type} (source : Source (StateM σ)) (level : σ → σ → Prop),
      source.Resolves level → source.ModesAgree level) ∧
    ∀ {σ : Type} (layers : List (Source (StateM σ))) (level : σ → σ → Prop),
      (∀ layer ∈ layers, layer.Resolves level) →
        (Source.layered layers).ModesAgree (Source.layeredLevel level) :=
  ⟨fun _ _ resolves => Source.modesAgree_of_resolves resolves,
    fun _ _ resolves => Source.modesAgree_of_resolves (Source.resolves_layered resolves)⟩

def Source.delayed (answers : DataKey → Outcome) : Source (StateM Bool) where
  load key := pure (answers key)
  advance key := do
    let due ← get
    set (! due)
    return if due then some (answers key) else none

theorem Source.resolves_delayed (answers : DataKey → Outcome) :
    (delayed answers).Resolves fun polled _ => polled = false := by
  rintro key _ waited rfl
  exact ⟨false, .waits rfl (.arrives rfl), rfl⟩

theorem Operation.modes_agree_delayed :
    let source := Source.delayed Builtin.load
    let layers := [Source.delayed fun _ => .ok none, source]
    let operation : Operation Address := .parse (Locale.ofTag "de-DE") (.text "10117 Berlin")
    (∃ finish, Activity.Ends source ((operation.program.advance source {}).run false) finish ∧
      finish.1.1 = ((operation.program.run source {}).run false).1.1) ∧
    ∃ finish, Activity.Ends (Source.layered layers)
        ((operation.program.advance (Source.layered layers) {}).run (false, [])) finish ∧
      finish.1.1 = ((operation.program.run (Source.layered layers) {}).run (false, [])).1.1 := by
  intro source layers operation
  have quiet : (Store.cache {}).Quiet := nofun
  have delayed : ∀ layer ∈ layers, layer.Resolves fun polled _ => polled = false := by
    intro layer mem
    rcases List.mem_pair.mp mem with rfl | rfl
    · exact Source.resolves_delayed _
    · exact Source.resolves_delayed _
  obtain ⟨finish, ends, value, -⟩ := modes_agree.1 source _ (Source.resolves_delayed _) operation {}
    quiet false false rfl
  obtain ⟨finish', ends', value', -⟩ := modes_agree.2 layers _ delayed operation {} quiet
    (false, []) (false, []) ⟨rfl, rfl⟩
  exact ⟨⟨finish, (ends finish).mpr rfl, value⟩, finish', (ends' finish').mpr rfl, value'⟩

end Postal
