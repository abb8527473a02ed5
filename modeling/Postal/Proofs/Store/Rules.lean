import Postal.Proofs.Ruleset.Whole
import Postal.Proofs.Store.Choice
import Postal.Proofs.Store.Service

namespace Postal

variable {σ α β : Type} {source : Source (StateM σ)} {answers : DataKey → Outcome}

structure Passes (outcome : Outcome) : Prop where
  noValue : valueIn? outcome = none
  settled : pends outcome = false

theorem value_or_pends_or_passes (outcome : Outcome) :
    (∃ value, outcome = .ok (some value)) ∨ pends outcome = true ∨ Passes outcome := by
  cases outcome with
  | ok value =>
    cases value with
    | some value => exact .inl ⟨value, rfl⟩
    | none => exact .inr (.inr ⟨rfl, rfl⟩)
  | error cause =>
    cases pending : cause.isPending with
    | true => exact .inr (.inl pending)
    | false => exact .inr (.inr ⟨rfl, pending⟩)

/-- The rules that the specs of a chain give, and the specs that are asked for. -/
inductive Governs (answers : DataKey → Outcome) (specs : List String) :
    Governing → List String → Prop
  | found {place : Nat} {spec : String} {value : Json} {rules : Governing}
      (here : specs[place]? = some spec)
      (given : answers ⟨DataKey.address, spec⟩ = .ok (some value))
      (before : ∀ earlier ∈ specs.take place, Passes (answers ⟨DataKey.address, earlier⟩))
      (holds : Governing.Holds value rules) :
      Governs answers specs rules (specs.take (place + 1))
  | stopped {place : Nat} {spec : String} (here : specs[place]? = some spec)
      (pending : pends (answers ⟨DataKey.address, spec⟩) = true)
      (before : ∀ earlier ∈ specs.take place, Passes (answers ⟨DataKey.address, earlier⟩)) :
      Governs answers specs .generic (specs.take (place + 1))
  | missing (passed : ∀ spec ∈ specs, Passes (answers ⟨DataKey.address, spec⟩)) :
      Governs answers specs .generic specs

theorem Governs.cons {spec : String} {specs asked : List String} {rules : Governing}
    (passes : Passes (answers ⟨DataKey.address, spec⟩))
    (governs : Governs answers specs rules asked) :
    Governs answers (spec :: specs) rules (spec :: asked) := by
  cases governs with
  | found here given before holds =>
    exact @Governs.found _ _ (_ + 1) _ _ _ here given
      (List.forall_mem_cons.mpr ⟨passes, before⟩) holds
  | stopped here pending before =>
    exact @Governs.stopped _ _ (_ + 1) _ here pending (List.forall_mem_cons.mpr ⟨passes, before⟩)
  | missing passed => exact .missing (List.forall_mem_cons.mpr ⟨passes, passed⟩)

def Program.Along (allowed : DataKey → Outcome → Prop) : Program α → List DataKey → Prop
  | done _, _ => True
  | fetch key next, keys => ∃ later, keys = key :: later ∧
      ∀ outcome, allowed key outcome → (next outcome).Along allowed later
  | compileRules _ _ next, keys => ∀ rules, (next rules).Along allowed keys
  | compileNames _ _ next, keys => ∀ table, (next table).Along allowed keys

def rulesIn (last : Option DataError) (specs : List String) : Program Governing :=
  (resolveIn DataKey.address last specs).bind rulesFrom

theorem exists_rulesIn_cons (last : Option DataError) (spec : String) (specs : List String) :
    ∃ next, rulesIn last (spec :: specs) = .fetch ⟨DataKey.address, spec⟩ next ∧
      (∀ value, next (.ok (some value)) = .compileRules spec value .done) ∧
      (∀ outcome, pends outcome = true → next outcome = .done .generic) ∧
        ∀ outcome, Passes outcome → ∃ last, next outcome = rulesIn last specs := by
  refine ⟨_, rfl, fun value => rfl, fun outcome pending => ?_, fun outcome passes => ?_⟩
  · cases outcome with
    | ok value => cases pending
    | error cause =>
      have isPending : cause.isPending = true := pending
      simp only [isPending, if_true]
      rfl
  · cases outcome with
    | ok value =>
      obtain rfl : value = none := passes.noValue
      exact ⟨last, rfl⟩
    | error cause =>
      have isPending : cause.isPending = false := passes.settled
      refine ⟨some cause, ?_⟩
      simp only [isPending, Bool.false_eq_true, if_false]
      rfl

theorem rulesIn_nil (last : Option DataError) : rulesIn last [] = .done .generic := by
  cases last <;> rfl

theorem exists_governs (answers : DataKey → Outcome) (last : Option DataError)
    (specs : List String) :
    ∃ rules asked, Governs answers specs rules asked ∧
      (rulesIn last specs).eval (View.ofAnswers answers) = rules ∧
        (rulesIn last specs).Along (Program.Meets answers)
          (asked.map (DataKey.mk DataKey.address)) := by
  induction specs generalizing last with
  | nil =>
    rw [rulesIn_nil]
    exact ⟨.generic, [], .missing nofun, rfl, trivial⟩
  | cons spec specs ih =>
    obtain ⟨next, begins, found, stops, goesOn⟩ := exists_rulesIn_cons last spec specs
    rw [begins]
    -- Whatever a run is told, it gives up where it is told that the data are still to come.
    have along : ∀ {asked}, (next (answers ⟨DataKey.address, spec⟩)).Along (Program.Meets answers)
          (asked.map (DataKey.mk DataKey.address)) →
        (Program.fetch ⟨DataKey.address, spec⟩ next).Along (Program.Meets answers)
          ((spec :: asked).map (DataKey.mk DataKey.address)) := by
      intro asked answered
      refine ⟨_, rfl, fun outcome meets => ?_⟩
      rcases meets with rfl | rfl
      · exact answered
      · rw [stops _ rfl]
        trivial
    rcases value_or_pends_or_passes (answers ⟨DataKey.address, spec⟩) with
      ⟨value, given⟩ | pending | passes
    · have holds := Governing.holds_ofJson spec value
      refine ⟨_, _, @Governs.found _ _ 0 spec value _ rfl given nofun holds, ?_,
        @along [] ?_⟩
      · rw [Program.eval, View.outcome_ofAnswers, given, found]
        rfl
      · rw [given, found]
        exact fun _ => trivial
    · refine ⟨_, _, @Governs.stopped _ _ 0 spec rfl pending nofun, ?_, @along [] ?_⟩
      · rw [Program.eval, View.outcome_ofAnswers, stops _ pending]
        rfl
      · rw [stops _ pending]
        trivial
    · obtain ⟨last', same⟩ := goesOn _ passes
      obtain ⟨rules, asked, governs, value, later⟩ := ih last'
      refine ⟨rules, spec :: asked, governs.cons passes, ?_, along ?_⟩
      · rw [Program.eval, View.outcome_ofAnswers, same, value]
      · rwa [same]

theorem run_rulesIn_of_pends (source : Source (StateM σ)) (last : Option DataError)
    (specs : List String) (store : Store) (provider : σ)
    (told : ∃ outcome ∈ (rulesIn last specs).met source store provider, pends outcome = true) :
    (((rulesIn last specs).run source store).run provider).1.1 = .generic := by
  induction specs generalizing last store provider with
  | nil =>
    rw [rulesIn_nil]
    rfl
  | cons spec specs ih =>
    obtain ⟨next, begins, found, stops, goesOn⟩ := exists_rulesIn_cons last spec specs
    rw [begins, Program.met] at told
    rw [begins, Program.run, StateT.run_bind]
    generalize (store.cache.get source ⟨DataKey.address, spec⟩).run provider = result at told
    obtain ⟨⟨outcome, cache⟩, after⟩ := result
    obtain ⟨other, mem, pends⟩ := told
    change (((next outcome).run source { store with cache }).run after).1.1 = _
    dsimp only at mem
    rcases value_or_pends_or_passes outcome with ⟨value, rfl⟩ | pending | passes
    · rw [found] at mem
      rw [List.mem_singleton.mp mem] at pends
      cases pends
    · rw [stops _ pending]
      rfl
    · obtain ⟨last', same⟩ := goesOn _ passes
      rw [same] at mem ⊢
      rcases List.mem_cons.mp mem with rfl | mem
      · rw [passes.settled] at pends
        cases pends
      · exact ih last' _ after ⟨other, mem, pends⟩

namespace Cache

def Loads (old : Cache) (keys : List DataKey) (new : Cache) : Prop :=
  ∃ loaded, loaded.Sublist keys ∧ new.history.map (·.key) = old.history.map (·.key) ++ loaded

variable {old middle new cache : Cache} {keys first second : List DataKey} {key : DataKey}

theorem Loads.of_same (keys : List DataKey)
    (same : new.history.map (·.key) = old.history.map (·.key)) : old.Loads keys new :=
  ⟨[], List.nil_sublist keys, by rw [same, List.append_nil]⟩

theorem Loads.refl (cache : Cache) (keys : List DataKey) : cache.Loads keys cache :=
  .of_same keys rfl

theorem Loads.append (before : old.Loads first middle) (after : middle.Loads second new) :
    old.Loads (first ++ second) new := by
  obtain ⟨loaded, sublist, keys⟩ := before
  obtain ⟨loaded', sublist', keys'⟩ := after
  exact ⟨loaded ++ loaded', sublist.append sublist', by rw [keys', keys, List.append_assoc]⟩

theorem loads_startFlight (cache : Cache) (key : DataKey) :
    cache.Loads [key] (cache.startFlight key) :=
  ⟨[key], .refl _, by simp [startFlight]⟩

theorem TrueTo.get_loads (h : cache.TrueTo answers) (steady : source.Steady answers)
    (key : DataKey) (provider : σ) :
    let result := (cache.get source key).run provider
    cache.Loads [key] result.1.2 ∧
      (pends result.1.1 = true →
        (∃ number, cache.slot? key = some (.loading number)) ∨ pends (answers key) = true) ∧
      ∀ other number, result.1.2.slot? other = some (.loading number) →
        cache.slot? other = some (.loading number) := by
  have meets := (h.get steady key provider).2.2
  have got := cache.get_got source key provider
  generalize (cache.get source key).run provider = result at got meets
  have answered : result.1.1 = answers key → pends result.1.1 = true →
      (∃ number, cache.slot? key = some (.loading number)) ∨ pends (answers key) = true :=
    fun same pending => .inr (same ▸ pending)
  cases got with
  | settled outcome known =>
    exact ⟨.refl _ _, answered (h.settled known), fun _ _ flying => flying⟩
  | unfinished number after flying waits =>
    exact ⟨.refl _ _, fun _ => .inl ⟨number, flying⟩, fun _ _ flying => flying⟩
  | finished number outcome after flying arrives =>
    refine ⟨.of_same _ (map_history_finish cache number outcome _ fun _ => rfl),
      fun _ => .inl ⟨number, flying⟩, fun other number' flying' => ?_⟩
    rw [slot?_settle] at flying'
    split at flying'
    · cases flying'
    · exact flying'
  | missing outcome after unknown loaded =>
    have load := steady.load key provider
    rw [loaded] at load
    refine ⟨⟨[key], .refl _, by simp [history_settle, Cache.record]⟩, answered load,
      fun other number flying => ?_⟩
    rw [slot?_settle] at flying
    split at flying
    · cases flying
    · exact flying

theorem keys_await (source : Source (StateM σ)) (cache : Cache) (key : DataKey) (number : Nat)
    (provider : σ) :
    (((cache.await source key number).run provider).1.2.history).map (·.key) =
      cache.history.map (·.key) := by
  have polled := cache.pollFlight_polled source number provider
  rw [await, StateT.run_bind]
  generalize (cache.pollFlight source number).run provider = result at polled
  cases polled with
  | unfinished after waits => rfl
  | finished outcome after arrives =>
    change ((cache.finish number outcome).land key outcome).history.map _ = _
    rw [land_history]
    exact map_history_finish cache number outcome _ fun _ => rfl

theorem TrueTo.flying (h : cache.TrueTo answers) : cache.Flying answers := by
  intro key number aloft
  obtain ⟨load, found, same⟩ := h.loading aloft
  exact ⟨load, found, same, fun outcome brought => h.brought ⟨load, found, same, brought⟩⟩

end Cache

structure Program.Consults (answers : DataKey → Outcome) (keys : List DataKey) (before : Cache)
    (met : List Outcome) (after : Cache) : Prop where
  lookups : met.length ≤ keys.length
  pending : ∀ outcome ∈ met, pends outcome = true → ∃ key ∈ keys,
    (∃ number, before.slot? key = some (.loading number)) ∨ pends (answers key) = true
  loads : before.Loads keys after

namespace Program

variable {program : Program α} {store : Store} {keys : List DataKey}

theorem run_along (steady : source.Steady answers) (h : store.TrueTo answers)
    (ensures : program.Ensures (Meets answers) fun _ => True)
    (along : program.Along (Meets answers) keys) (provider : σ) :
    Consults answers keys store.cache (program.met source store provider)
      ((program.run source store).run provider).1.2.cache := by
  induction program generalizing keys store provider with
  | done value => exact ⟨Nat.zero_le _, nofun, .refl _ _⟩
  | fetch key next ih =>
    obtain ⟨later, rfl, along⟩ := along
    obtain ⟨kept, -, meets⟩ := h.cache.get steady key provider
    obtain ⟨loads, pending, flying⟩ := h.cache.get_loads steady key provider
    rw [run, StateT.run_bind, met]
    generalize (store.cache.get source key).run provider = result
      at kept meets loads pending flying
    obtain ⟨⟨outcome, cache⟩, after⟩ := result
    have rest := ih outcome (h.withCache kept) (ensures outcome meets) (along outcome meets) after
    refine ⟨Nat.succ_le_succ rest.lookups, ?_, loads.append rest.loads⟩
    intro other mem pends
    rcases List.mem_cons.mp mem with rfl | mem
    · exact ⟨key, List.mem_cons_self, pending pends⟩
    · obtain ⟨key', listed, aloft⟩ := rest.pending other mem pends
      refine ⟨key', List.mem_cons_of_mem _ listed, aloft.imp_left ?_⟩
      rintro ⟨number, there⟩
      exact ⟨number, flying key' number there⟩
  | compileRules spec value next ih =>
    have kept := (h.rulesOf ensures.1.value).2
    have rest := ih (store.rulesOf spec value).1 kept (ensures.2 _) (along _) provider
    rw [store.cache_rulesOf] at rest
    exact rest
  | compileNames spec value next ih =>
    have kept := (h.namesOf ensures.1.value).2
    have rest := ih (store.namesOf spec value).1 kept (ensures.2 _) (along _) provider
    rw [store.cache_namesOf] at rest
    exact rest

end Program

namespace Activity

def Along (answers : DataKey → Outcome) (keys : List DataKey) : Activity α → Prop
  | finished _ => True
  | waiting key _ next => (next (answers key)).Along (Program.Meets answers) keys

def GoesAlong (answers : DataKey → Outcome) (keys : List DataKey) (old : Cache)
    (result : Activity α × Store) : Prop :=
  ∃ asked later, keys = asked ++ later ∧ old.Loads asked result.2.cache ∧
    result.1.Along answers later

variable {keys : List DataKey} {old middle : Cache} {result : Activity α × Store}

theorem GoesAlong.of_loads (goes : GoesAlong answers keys middle result) {before : List DataKey}
    (loads : old.Loads before middle) : GoesAlong answers (before ++ keys) old result := by
  obtain ⟨asked, later, rfl, loads', along⟩ := goes
  exact ⟨before ++ asked, later, (List.append_assoc ..).symm, loads.append loads', along⟩

theorem poll_waiting_along (steady : source.Steady answers) {store : Store}
    (h : store.TrueTo answers) {key : DataKey} {number : Nat} {next : Outcome → Program α}
    (goes : ∀ {store : Store}, store.TrueTo answers → ∀ provider,
      GoesAlong answers keys store.cache
        (((next (answers key)).advance source store).run provider).1)
    (asked : store.cache.Asked number key)
    (along : (next (answers key)).Along (Program.Meets answers) keys) (provider : σ) :
    GoesAlong answers keys store.cache
      (((waiting key number next).poll source store).run provider).1 := by
  obtain ⟨kept, -, comes⟩ := h.cache.await steady asked provider
  have same := store.cache.keys_await source key number provider
  rw [poll, StateT.run_bind]
  generalize (store.cache.await source key number).run provider = result at kept comes same
  obtain ⟨⟨answer, cache⟩, after⟩ := result
  rcases comes with rfl | rfl
  · exact ⟨[], keys, rfl, .of_same [] same, along⟩
  · exact (goes (h.withCache kept) after).of_loads (.of_same [] same)

end Activity

theorem Program.advance_along (steady : source.Steady answers) {program : Program α}
    {store : Store} {keys : List DataKey} (h : store.TrueTo answers)
    (faithful : program.Faithful (View.ofAnswers answers))
    (along : program.Along (Meets answers) keys) (provider : σ) :
    Activity.GoesAlong answers keys store.cache
      ((program.advance source store).run provider).1 := by
  induction program generalizing store keys provider with
  | done value => exact ⟨[], keys, rfl, .refl _ _, trivial⟩
  | fetch key next ih =>
    obtain ⟨later, rfl, along⟩ := along
    have answered := along _ (.inl rfl)
    have goes : ∀ {store : Store}, store.TrueTo answers → ∀ provider,
        Activity.GoesAlong answers later store.cache
          (((next (answers key)).advance source store).run provider).1 :=
      fun kept provider => ih _ kept faithful answered provider
    rw [advance]
    cases slot : store.cache.slot? key with
    | none =>
      obtain ⟨kept, -, asked⟩ := h.cache.startFlight key
      rw [Cache.request_of_unknown slot]
      exact (Activity.poll_waiting_along steady (h.withCache kept) goes asked answered
        provider).of_loads (store.cache.loads_startFlight key)
    | some known =>
      cases known with
      | settled outcome =>
        rw [Cache.request_of_settled slot]
        cases h.cache.settled slot
        exact (goes h provider).of_loads (.refl _ [key])
      | loading number =>
        rw [Cache.request_of_loading slot]
        exact (Activity.poll_waiting_along steady h goes (h.cache.loading slot) answered
          provider).of_loads (.refl _ [key])
  | compileRules spec value next ih =>
    obtain ⟨made, kept⟩ := h.rulesOf faithful.1
    rw [Faithful, ← made] at faithful
    have goes := ih (store.rulesOf spec value).1 kept faithful.2 (along _) provider
    rwa [store.cache_rulesOf] at goes
  | compileNames spec value next ih =>
    obtain ⟨made, kept⟩ := h.namesOf faithful.1
    rw [Faithful, ← made] at faithful
    have goes := ih (store.namesOf spec value).1 kept faithful.2 (along _) provider
    rwa [store.cache_namesOf] at goes

theorem Activity.poll_along (steady : source.Steady answers) {activity : Activity α}
    {store : Store} {value : α} {keys : List DataKey} (h : store.TrueTo answers)
    (promises : activity.Promises answers value store.cache) (along : activity.Along answers keys)
    (provider : σ) :
    GoesAlong answers keys store.cache ((activity.poll source store).run provider).1 := by
  cases activity with
  | finished result => exact ⟨[], keys, rfl, .refl _ _, trivial⟩
  | waiting key number next =>
    exact poll_waiting_along steady h (fun kept provider =>
      Program.advance_along steady kept promises.2.1 along provider) promises.1 along provider

theorem Program.progress_along (steady : source.Steady answers) {program : Program α}
    {store : Store} {keys : List DataKey} (h : store.TrueTo answers)
    (faithful : program.Faithful (View.ofAnswers answers))
    (along : program.Along (Meets answers) keys) (providers : Nat → σ) (time : Nat) :
    let now := program.progress source providers store time
    Activity.Goes answers (program.eval (View.ofAnswers answers)) store.cache now ∧
      Activity.GoesAlong answers keys store.cache now := by
  induction time with
  | zero =>
    exact ⟨advance_true steady h faithful (providers 0),
      advance_along steady h faithful along (providers 0)⟩
  | succ time ih =>
    obtain ⟨goes, asked, later, rfl, loads, rest⟩ := ih
    have polled := Activity.poll_true steady goes.1 goes.2.2 (providers (time + 1))
    have polledAlong := Activity.poll_along steady goes.1 goes.2.2 rest (providers (time + 1))
    exact ⟨polled.of_later goes.2.1, polledAlong.of_loads loads⟩

inductive RulesRequest where
  | forCode (code : Option String)
  | forLocale (locale : Locale)

namespace RulesRequest

def operation : RulesRequest → Operation Governing
  | forCode code => .rulesForCode code
  | forLocale locale => .rulesForLocale locale

def chain : RulesRequest → List String
  | forCode none => []
  | forCode (some code) => (Locale.ofRegion code).chain
  | forLocale locale => locale.chain

theorem program_eq (request : RulesRequest) :
    request.operation.program = rulesIn none request.chain := by
  rcases request with ⟨_ | code⟩ | locale <;> rfl

end RulesRequest

namespace Service

/-- Whatever was done with a store over a source that always gives the same answers, a request for
rules gives those that the first data along its chain say, as a whole, or else the generic ones. It
asks for no spec after that one. If it waits, it may be told that a load which was in flight is not
finished, and then gives the generic rules; if it is polled, it comes to its end when all loads do.
-/
theorem rules_whole_or_generic (steady : source.Steady answers) (provider : σ) (locale : Locale)
    (events : List (Event σ)) (request : RulesRequest) :
    let service := run source provider locale events
    let program := request.operation.program
    let store := service.store
    ∃ rules asked, Governs answers request.chain rules asked ∧
      let keys := asked.map (DataKey.mk DataKey.address)
      (∀ provider,
        let result := (program.run source store).run provider
        let met := program.met source store provider
        ((∀ outcome ∈ met, pends outcome = false) → result.1.1 = rules) ∧
          ((∃ outcome ∈ met, pends outcome = true) → result.1.1 = .generic) ∧
            Program.Consults answers keys store.cache met result.1.2.cache) ∧
      (∀ providers,
        (∀ time, let now := program.progress source providers store time
          (∀ value, now.1 = .finished value → value = rules) ∧
            store.cache.Loads keys now.2.cache) ∧
          (source.Fair providers →
            ∃ time, (program.progress source providers store time).1 = .finished rules)) ∧
      ∀ value met, ⟨request.operation, value, met⟩ ∈ service.completed →
        (∀ outcome ∈ met, pends outcome = false) → value = rules := by
  intro service program store
  obtain ⟨rules, asked, governs, value, along⟩ := exists_governs answers none request.chain
  rw [← request.program_eq] at value along
  have trueTo : service.TrueTo answers := trueTo_run steady provider locale events
  have honest : program.Honest := request.operation.program_honest
  refine ⟨rules, asked, governs, fun provider => ?_, fun providers => ⟨fun time => ?_, ?_⟩, ?_⟩
  · have consults := Program.run_along steady trueTo.store (honest _) along provider
    obtain ⟨-, -, gives⟩ := Program.run_true steady trueTo.store (honest _) provider
    refine ⟨fun settled => (gives settled).trans value, fun told => ?_, consults⟩
    have generic := run_rulesIn_of_pends source none request.chain store provider
    rw [← request.program_eq] at generic
    exact generic told
  · obtain ⟨goes, used, later, split, loads, -⟩ :=
      Program.progress_along steady trueTo.store (honest.faithful _) along providers time
    refine ⟨fun result finished => ?_, ?_⟩
    · have promises := goes.2.2
      rw [finished] at promises
      exact promises.trans value
    · obtain ⟨loaded, sublist, keys⟩ := loads
      exact ⟨loaded, split ▸ sublist.trans (List.sublist_append_left _ _), keys⟩
  · intro fair
    obtain ⟨time, result, finished⟩ :=
      Program.exists_finished steady fair trueTo.store.cache.flying
    obtain ⟨goes, -⟩ :=
      Program.progress_along steady trueTo.store (honest.faithful _) along providers time
    have promises := goes.2.2
    rw [finished] at promises
    exact ⟨time, finished.trans (congrArg Activity.finished (promises.trans value))⟩
  · intro given met mem settled
    exact (trueTo.completed _ mem settled).trans value

theorem rules_whole_or_generic_behind_gate :
    let data : Json := .object [("formats", .object [("default", .string "\x7blocality\x7d")]),
      ("fields", .array [.object [("name", .string "locality")]])]
    let answers : DataKey → Outcome := fun key =>
      .ok (if key.spec = "und-DE" then some data else none)
    let source := Source.gated answers
    let request : RulesRequest := .forCode (some "DE")
    let program := request.operation.program
    let store := (run source false Locale.root [.start request.operation]).store
    source.Steady answers ∧ ((program.run source store).run false).1.1 = .generic ∧
      ∃ rules asked, Governs answers request.chain rules asked ∧ rules.isGeneric = false ∧
        ∃ time, (program.progress source (fun _ => true) store time).1 = .finished rules := by
  intro data answers source request program store
  have steady : source.Steady answers := Source.steady_gated answers
  obtain ⟨rules, asked, governs, waiting, polled, -⟩ :=
    rules_whole_or_generic steady false Locale.root [.start request.operation] request
  refine ⟨steady, (waiting false).2.1 ?_, rules, asked, governs, ?_, (polled fun _ => true).2 ?_⟩
  · have told : (program.met source store false).any pends = true := by decide +kernel
    exact List.any_eq_true.mp told
  · have usable : (match (program.progress source (fun _ => true) store 0).1 with
        | .finished rules => rules.isGeneric
        | .waiting .. => true) = false := by decide +kernel
    cases given : (program.progress source (fun _ => true) store 0).1 with
    | finished value =>
      rw [given] at usable
      rwa [← ((polled fun _ => true).1 0).1 value given]
    | waiting key number next =>
      rw [given] at usable
      cases usable
  · exact fun key time => ⟨time, le_rfl, nofun⟩

end Service

end Postal
