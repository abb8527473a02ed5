import Mathlib.Data.Finset.Card
import Postal.Proofs.Store.Session

namespace Postal

variable {σ : Type}

def pends : Outcome → Bool
  | .error cause => cause.isPending
  | .ok _ => false

/-- A source that never tells itself that a load is not finished. -/
structure Source.Definite (source : Source (StateM σ)) : Prop where
  load : ∀ key provider, pends ((source.load key).run provider).1 = false
  advance : ∀ key provider outcome, ((source.advance key).run provider).1 = some outcome →
    pends outcome = false

def Cache.Definite (cache : Cache) : Prop :=
  ∀ number key outcome, cache.Brought number key outcome → pends outcome = false

namespace Cache

theorem Brought.unique {cache : Cache} {number : Nat} {key : DataKey} {first second : Outcome}
    (h : cache.Brought number key first) (h' : cache.Brought number key second) :
    first = second := by
  obtain ⟨load, found, -, brought⟩ := h
  obtain ⟨load', found', -, brought'⟩ := h'
  rw [found] at found'
  cases found'
  exact Option.some.inj (brought.symm.trans brought')

theorem brought_of_brought_finish {cache : Cache} {number other : Nat} {key : DataKey}
    {outcome known : Outcome} (h : (cache.finish number outcome).Brought other key known) :
    known = outcome ∨ cache.Brought other key known := by
  obtain ⟨load, found, same, brought⟩ := h
  rw [getElem?_finish, Option.map_eq_some_iff] at found
  obtain ⟨old, found, rfl⟩ := found
  split at brought
  · exact .inl (Option.some.inj brought).symm
  · rename_i elsewhere
    rw [if_neg elsewhere] at same
    exact .inr ⟨old, found, same, brought⟩

theorem brought_of_history_append {cache next : Cache} {load : Load} {number : Nat}
    {key : DataKey} {known : Outcome} (history : next.history = cache.history ++ [load])
    (h : next.Brought number key known) :
    load.outcome = some known ∨ cache.Brought number key known := by
  obtain ⟨found, there, same, brought⟩ := h
  rw [history, List.getElem?_append] at there
  split at there
  · exact .inr ⟨found, there, same, brought⟩
  · rw [List.getElem?_singleton] at there
    split at there
    · cases there
      exact .inl brought
    · cases there

theorem pends_of_arrives {source : Source (StateM σ)} {cache : Cache} {number : Nat}
    {provider after : σ} {outcome : Outcome} (definite : source.Definite) (h : cache.Definite)
    (arrives : cache.Arrives source number provider outcome after) : pends outcome = false := by
  obtain ⟨load, found, brought | ⟨-, brought⟩⟩ := arrives
  · exact h _ _ _ ⟨load, found, rfl, brought⟩
  · exact definite.advance load.key provider outcome (congrArg Prod.fst brought)

end Cache

namespace Session

variable {session : Session σ} {source : Source (StateM σ)}

inductive Recorded (source : Source (StateM σ)) (session : Session σ) (event : Event σ) :
    List Load → Prop
  | same (known : ∀ key, event.asks? = some key → session.cache.slot? key ≠ none) :
      Recorded source session event session.cache.history
  | finished (number : Nat) (outcome : Outcome) (after : σ)
      (arrives : session.cache.Arrives source number session.provider outcome after)
      (known : ∀ key, event.asks? = some key → session.cache.slot? key ≠ none) :
      Recorded source session event (session.cache.finish number outcome).history
  | asked (load : Load) (asks : event.asks? = some load.key)
      (unknown : session.cache.slot? load.key = none)
      (loaded : ∀ outcome, load.outcome = some outcome →
        ((source.load load.key).run session.provider).1 = outcome) :
      Recorded source session event (session.cache.history ++ [load])

theorem recorded_step (source : Source (StateM σ)) (session : Session σ) (event : Event σ) :
    Recorded source session event (session.step source event).cache.history := by
  cases event with
  | change provider => exact .same nofun
  | get key =>
    have asked : ∀ {slot other}, session.cache.slot? key = some slot →
        (Event.get key : Event σ).asks? = some other → session.cache.slot? other ≠ none := by
      rintro slot other known ⟨⟩
      rw [known]
      exact Option.some_ne_none slot
    have got := session.cache.get_got source key session.provider
    rw [step, get_eq]
    generalize (session.cache.get source key).run session.provider = result at got
    cases got with
    | settled outcome known => exact .same fun _ => asked known
    | unfinished number after flying waits => exact .same fun _ => asked flying
    | finished number outcome after flying arrives =>
      exact .finished number outcome after arrives fun _ => asked flying
    | missing outcome after unknown loaded =>
      refine .asked ⟨key, .blocking, some outcome⟩ rfl unknown ?_
      rintro known ⟨⟩
      exact congrArg Prod.fst loaded
  | begin key =>
    rw [step, begin, Cache.request]
    cases slot : session.cache.slot? key with
    | none => exact .asked ⟨key, .started, none⟩ rfl slot nofun
    | some known =>
      have asked : ∀ other, (Event.begin key : Event σ).asks? = some other →
          session.cache.slot? other ≠ none := by
        rintro other ⟨⟩
        rw [slot]
        exact Option.some_ne_none known
      cases known <;> exact .same asked
  | poll place =>
    rw [step, poll]
    split
    · exact .same nofun
    · rename_i request there
      have polled := session.cache.pollFlight_polled source request.flight session.provider
      generalize (session.cache.pollFlight source request.flight).run session.provider = result
        at polled
      cases polled with
      | unfinished after waits => exact .same nofun
      | finished outcome after arrives => exact .finished _ outcome after arrives nofun
  | land place =>
    rw [step, land]
    split
    · rw [Cache.land_history]
      exact .same nofun
    · exact .same nofun
  | drop place => exact .same nofun
  | clear => exact .same nofun

theorem definite_step (definite : source.Definite) (h : session.cache.Definite)
    (event : Event σ) : (session.step source event).cache.Definite := by
  intro number key known brought
  have recorded := recorded_step source session event
  generalize history : (session.step source event).cache.history = loads at recorded
  cases recorded with
  | same => exact h number key known ((Cache.Later.of_history_eq history.symm).brought brought)
  | finished flown outcome after arrives =>
    have brought := (Cache.Later.of_history_eq history.symm).brought brought
    rcases Cache.brought_of_brought_finish brought with rfl | old
    · exact Cache.pends_of_arrives definite h arrives
    · exact h number key known old
  | asked load asks unknown loaded =>
    rcases Cache.brought_of_history_append history brought with new | old
    · rw [← loaded known new]
      exact definite.load load.key session.provider
    · exact h number key known old

theorem definite_run (definite : source.Definite) (provider : σ) (events : List (Event σ)) :
    (run source provider events).cache.Definite := by
  induction events using List.reverseRecOn with
  | nil =>
    rintro number key outcome ⟨load, found, -⟩
    rw [run, List.foldl_nil, List.getElem?_nil] at found
    cases found
  | append_singleton events event ih =>
    rw [run_append_singleton]
    exact definite_step definite ih event

theorem forgotten_step {event : Event σ} (uncleared : event ≠ .clear) :
    (session.step source event).forgotten = session.forgotten := by
  cases event with
  | change provider => rfl
  | get key => rw [step, get_eq]
  | begin key =>
    rw [step, begin]
    split <;> rfl
  | poll place =>
    rw [step, poll]
    split <;> rfl
  | land place =>
    rw [step, land]
    split <;> rfl
  | drop place => rfl
  | clear => exact absurd rfl uncleared

theorem forgotten_run (source : Source (StateM σ)) (provider : σ) {events : List (Event σ)}
    (uncleared : ∀ event ∈ events, event ≠ .clear) :
    (run source provider events).forgotten = 0 := by
  induction events using List.reverseRecOn with
  | nil => rfl
  | append_singleton events event ih =>
    rw [run_append_singleton, forgotten_step (uncleared event (by simp))]
    exact ih fun earlier member => uncleared earlier (List.mem_append_left _ member)

def keys (session : Session σ) : List DataKey :=
  session.cache.history.map (·.key)

theorem WellFormed.slots_eq_keys (h : session.WellFormed) (unforgotten : session.forgotten = 0) :
    session.cache.slots.map (·.1) = session.keys := by
  rw [h.sound.known, unforgotten, List.drop_zero, keys]

theorem WellFormed.mem_keys_step (h : session.WellFormed) (unforgotten : session.forgotten = 0)
    (event : Event σ) (key : DataKey) :
    key ∈ (session.step source event).keys ↔ key ∈ session.keys ∨ event.asks? = some key := by
  have recorded := recorded_step source session event
  have old : (∀ key, event.asks? = some key → session.cache.slot? key ≠ none) →
      (key ∈ session.keys ↔ key ∈ session.keys ∨ event.asks? = some key) := by
    intro known
    refine ⟨.inl, fun either => either.elim id fun asks => ?_⟩
    have slot := known key asks
    rwa [ne_eq, Cache.slot?_eq_none_iff, not_not, h.slots_eq_keys unforgotten] at slot
  generalize history : (session.step source event).cache.history = loads at recorded
  rw [keys, history]
  cases recorded with
  | same known => exact old known
  | finished number outcome after arrives known =>
    rw [Cache.map_history_finish _ _ _ _ fun _ => rfl]
    exact old known
  | asked load asks unknown loaded =>
    rw [List.map_append, List.mem_append, asks, Option.some.injEq, List.map_singleton,
      List.mem_singleton, eq_comm (a := key)]
    rfl

theorem mem_keys_run (source : Source (StateM σ)) (provider : σ) {events : List (Event σ)}
    (uncleared : ∀ event ∈ events, event ≠ .clear) (key : DataKey) :
    key ∈ (run source provider events).keys ↔ key ∈ events.filterMap Event.asks? := by
  induction events using List.reverseRecOn with
  | nil => rfl
  | append_singleton events event ih =>
    have earlier : ∀ event ∈ events, event ≠ .clear :=
      fun event member => uncleared event (List.mem_append_left _ member)
    have unforgotten := forgotten_run source provider earlier
    rw [run_append_singleton, (wellFormed_run source provider events).mem_keys_step unforgotten,
      ih earlier, List.filterMap_append, List.mem_append, List.filterMap_cons]
    cases event.asks? with
    | none => simp
    | some asked => simp [eq_comm]

theorem nodup_keys_run (source : Source (StateM σ)) (provider : σ) {events : List (Event σ)}
    (uncleared : ∀ event ∈ events, event ≠ .clear) : (run source provider events).keys.Nodup := by
  have wellFormed := wellFormed_run source provider events
  rw [← wellFormed.slots_eq_keys (forgotten_run source provider uncleared)]
  exact wellFormed.sound.different

theorem length_keys_run (source : Source (StateM σ)) (provider : σ) {events : List (Event σ)}
    (uncleared : ∀ event ∈ events, event ≠ .clear) :
    (run source provider events).keys.length = (events.filterMap Event.asks?).toFinset.card := by
  rw [← List.toFinset_card_of_nodup (nodup_keys_run source provider uncleared)]
  congr 1
  ext key
  rw [List.mem_toFinset, List.mem_toFinset, mem_keys_run source provider uncleared]

theorem count_keyIn? (loads : List Load) (key : DataKey) :
    (loads.filterMap (Load.keyIn? .blocking)).count key +
      (loads.filterMap (Load.keyIn? .started)).count key = (loads.map (·.key)).count key := by
  induction loads with
  | nil => rfl
  | cons load loads ih =>
    obtain ⟨name, mode, outcome⟩ := load
    rw [List.map_cons, List.count_cons, ← ih]
    cases mode with
    | blocking =>
      have here : Load.keyIn? .blocking ⟨name, .blocking, outcome⟩ = some name := rfl
      have there : Load.keyIn? .started ⟨name, .blocking, outcome⟩ = none := rfl
      rw [List.filterMap_cons_some here, List.filterMap_cons_none there, List.count_cons]
      exact Nat.add_right_comm _ _ _
    | started =>
      have here : Load.keyIn? .started ⟨name, .started, outcome⟩ = some name := rfl
      have there : Load.keyIn? .blocking ⟨name, .started, outcome⟩ = none := rfl
      rw [List.filterMap_cons_some here, List.filterMap_cons_none there, List.count_cons]
      exact (Nat.add_assoc _ _ _).symm

theorem WellFormed.flying_of_pends (h : session.WellFormed) (kept : session.cache.Definite)
    (definite : source.Definite) (key : DataKey) :
    let result := (session.cache.get source key).run session.provider
    pends result.1.1 = true →
      result.1.1 = .error (.pending key) ∧ result.1.2 = session.cache ∧
        ∃ number, session.cache.slot? key = some (.loading number) ∧
          session.cache.history[number]? = some ⟨key, .started, none⟩ ∧
            (source.advance key).run session.provider = (none, result.2) := by
  have got := session.cache.get_got source key session.provider
  generalize (session.cache.get source key).run session.provider = result at got
  intro result pending
  cases got with
  | settled outcome known =>
    rw [kept _ _ _ (h.sound.settled known)] at pending
    cases pending
  | unfinished number after flying waits =>
    obtain ⟨-, outcome, found⟩ := h.sound.loading flying
    obtain ⟨unfinished, still⟩ := waits _ found
    cases unfinished
    exact ⟨rfl, rfl, number, flying, found, still⟩
  | finished number outcome after flying arrives =>
    rw [Cache.pends_of_arrives definite kept arrives] at pending
    cases pending
  | missing outcome after unknown loaded =>
    have answered := definite.load key session.provider
    rw [loaded, pending] at answered
    cases answered

theorem WellFormed.outcome_eq (h : session.WellFormed) (unforgotten : session.forgotten = 0)
    {first second : Answer} (firstMem : first ∈ session.answers)
    (secondMem : second ∈ session.answers) (same : first.key = second.key)
    (firstDone : pends first.outcome = false) (secondDone : pends second.outcome = false) :
    first.outcome = second.outcome := by
  have brought : ∀ answer ∈ session.answers, pends answer.outcome = false →
      session.cache.Brought answer.load answer.key answer.outcome := by
    intro answer member done
    refine (h.truthful answer member).resolve_right fun pending => ?_
    rw [pending.2] at done
    cases done
  have firstBrought := brought first firstMem firstDone
  have secondBrought := brought second secondMem secondDone
  rw [same] at firstBrought
  have one := h.sound.unique (unforgotten ▸ Nat.zero_le _) (unforgotten ▸ Nat.zero_le _)
    firstBrought.toAsked secondBrought.toAsked
  rw [one] at firstBrought
  exact firstBrought.unique secondBrought

/-- As long as nobody clears the cache, there is at most one load of a dataset, blocking or not, and
the datasets that are known are those that were asked for. A blocking look-up is pending only while
the load of the dataset is in flight, and changes nothing then. All other answers about a dataset
are the same. -/
theorem loads_once (source : Source (StateM σ)) (definite : source.Definite) (provider : σ)
    (events : List (Event σ)) (uncleared : ∀ event ∈ events, event ≠ .clear) :
    let session := run source provider events
    (∀ key, session.calls.count key +
        (session.cache.history.filterMap (Load.keyIn? .started)).count key ≤ 1) ∧
      session.cache.loadCount = (events.filterMap Event.asks?).toFinset.card ∧
      session.cache.size = (events.filterMap Event.asks?).toFinset.card ∧
      (∀ key,
        let result := (session.cache.get source key).run session.provider
        pends result.1.1 = true →
          result.1.1 = .error (.pending key) ∧ result.1.2 = session.cache ∧
            ∃ number, session.cache.slot? key = some (.loading number) ∧
              session.cache.history[number]? = some ⟨key, .started, none⟩ ∧
                (source.advance key).run session.provider = (none, result.2)) ∧
      ∀ first ∈ session.answers, ∀ second ∈ session.answers, first.key = second.key →
        pends first.outcome = false → pends second.outcome = false →
          first.outcome = second.outcome := by
  intro session
  have wellFormed : session.WellFormed := wellFormed_run source provider events
  have unforgotten : session.forgotten = 0 := forgotten_run source provider uncleared
  have different : session.keys.Nodup := nodup_keys_run source provider uncleared
  have number : session.keys.length = _ := length_keys_run source provider uncleared
  refine ⟨?_, ?_, ?_, ?_, ?_⟩
  · intro key
    rw [wellFormed.calls, count_keyIn?]
    exact List.nodup_iff_count_le_one.mp different key
  · rw [← number, keys, List.length_map, Cache.loadCount]
  · rw [← number, ← wellFormed.slots_eq_keys unforgotten, List.length_map, Cache.size]
  · exact wellFormed.flying_of_pends (definite_run definite provider events) definite
  · intro first firstMem second secondMem
    exact wellFormed.outcome_eq unforgotten firstMem secondMem

theorem loads_once_behind_gate :
    let source := Source.gated fun _ => .ok none
    let key : DataKey := ⟨DataKey.address, "und-JP"⟩
    let events : List (Event Bool) :=
      [.begin key, .get key, .begin key, .change true, .poll 1, .get key, .land 1, .poll 0, .drop 0]
    source.Definite ∧ (∀ event ∈ events, event ≠ .clear) ∧
      (run source false events).cache.loadCount = 1 := by
  intro source key events
  have definite : source.Definite := by
    refine ⟨fun _ _ => rfl, ?_⟩
    intro key provider outcome brought
    rw [Source.gated_advance brought]
    rfl
  have uncleared : ∀ event ∈ events, event ≠ .clear := by
    simp [events]
  exact ⟨definite, uncleared, (loads_once source definite false events uncleared).2.1⟩

end Session

end Postal
