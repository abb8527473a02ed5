import Mathlib.Data.List.Induction
import Postal.Proofs.Store.Cache

/-!
# Callers of a cache

A session is a run in which any number of callers use one cache. Blocking look-ups are one event;
those that do not block begin, look after their flight and land in events of their own, and may be
dropped in between. The source may change between any two events.
-/

namespace Postal

variable {σ : Type}

def Source.counted (source : Source (StateM σ)) : Source (StateM (σ × List DataKey)) where
  load key := fun (provider, calls) =>
    let (outcome, after) := (source.load key).run provider
    (outcome, after, calls ++ [key])
  advance key := fun (provider, calls) =>
    let (answer, after) := (source.advance key).run provider
    (answer, after, calls)

def Load.keyIn? (mode : LoadMode) (load : Load) : Option DataKey :=
  if load.mode = mode then some load.key else none

/-- A look-up that does not block, on its way. It began when `forgotten` loads had been forgotten,
waits for a flight, and holds what the flight has brought until it lands. -/
structure Request where
  key : DataKey
  flight : Nat
  forgotten : Nat
  brought : Option Outcome

/-- An answered look-up. It began when `forgotten` loads had been forgotten, and goes back to the
load of a number. -/
structure Answer where
  key : DataKey
  outcome : Outcome
  forgotten : Nat
  load : Nat

def Answer.Truthful (answer : Answer) (cache : Cache) : Prop :=
  cache.Brought answer.load answer.key answer.outcome ∨
    cache.Asked answer.load answer.key ∧ answer.outcome = .error (.pending answer.key)

def Answer.Fresh (answer : Answer) : Prop :=
  answer.forgotten ≤ answer.load

inductive Event (σ : Type) where
  | change (provider : σ)
  | get (key : DataKey)
  | begin (key : DataKey)
  | poll (place : Nat)
  | land (place : Nat)
  | drop (place : Nat)
  | clear

def Event.asks? : Event σ → Option DataKey
  | get key => some key
  | begin key => some key
  | _ => none

/-- Callers with their cache. The first `forgotten` loads were asked for before the cache was last
cleared; `origin` tells which load has brought what is settled. -/
structure Session (σ : Type) where
  provider : σ
  calls : List DataKey := []
  cache : Cache := {}
  requests : List Request := []
  answers : List Answer := []
  forgotten : Nat := 0
  origin : DataKey → Nat := fun _ => 0

namespace Session

/-- The load that a look-up of a dataset would go back to. -/
def supplier (session : Session σ) (key : DataKey) : Nat :=
  match session.cache.slot? key with
  | none => session.cache.loadCount
  | some (.loading number) => number
  | some (.settled _) => session.origin key

def answer (session : Session σ) (key : DataKey) (outcome : Outcome) : Answer :=
  ⟨key, outcome, session.forgotten, session.supplier key⟩

def get (source : Source (StateM σ)) (session : Session σ) (key : DataKey) : Session σ :=
  let ((outcome, cache), provider, calls) :=
    (session.cache.get source.counted key).run (session.provider, session.calls)
  { session with
    provider, calls, cache,
    answers := session.answers ++ [session.answer key outcome],
    origin := Function.update session.origin key (session.supplier key) }

def begin (session : Session σ) (key : DataKey) : Session σ :=
  match session.cache.request key with
  | (.settled outcome, cache) =>
    { session with cache, answers := session.answers ++ [session.answer key outcome] }
  | (.flight number, cache) =>
    { session with
      cache, requests := session.requests ++ [⟨key, number, session.forgotten, none⟩] }

def poll (source : Source (StateM σ)) (session : Session σ) (place : Nat) : Session σ :=
  match session.requests[place]? with
  | none => session
  | some request =>
    let ((brought, cache), provider) :=
      (session.cache.pollFlight source request.flight).run session.provider
    { session with
      provider, cache, requests := session.requests.set place { request with brought } }

def land (session : Session σ) (place : Nat) : Session σ :=
  match session.requests[place]? with
  | some ⟨key, number, forgotten, some outcome⟩ =>
    { session with
      cache := session.cache.land key outcome,
      requests := session.requests.eraseIdx place,
      answers := session.answers ++ [⟨key, outcome, forgotten, number⟩],
      origin :=
        if (session.cache.slot? key).any Slot.isLoading then
          Function.update session.origin key number
        else session.origin }
  | _ => session

def step (source : Source (StateM σ)) (session : Session σ) : Event σ → Session σ
  | .change provider => { session with provider }
  | .get key => session.get source key
  | .begin key => session.begin key
  | .poll place => session.poll source place
  | .land place => session.land place
  | .drop place => { session with requests := session.requests.eraseIdx place }
  | .clear => { session with cache := session.cache.clear, forgotten := session.cache.loadCount }

def run (source : Source (StateM σ)) (provider : σ) (events : List (Event σ)) : Session σ :=
  events.foldl (step source) { provider }

end Session

structure Request.WellFormed (request : Request) (cache : Cache) : Prop where
  asked : cache.Asked request.flight request.key
  recent : request.forgotten ≤ request.flight
  brought : ∀ outcome, request.brought = some outcome →
    cache.Brought request.flight request.key outcome

structure Session.WellFormed (session : Session σ) : Prop where
  sound : session.cache.Sound session.forgotten session.origin
  calls : session.calls = session.cache.history.filterMap (Load.keyIn? .blocking)
  requests : ∀ request ∈ session.requests, request.WellFormed session.cache
  truthful : ∀ answer ∈ session.answers, answer.Truthful session.cache

theorem Request.WellFormed.later {request : Request} {cache next : Cache}
    (h : request.WellFormed cache) (later : cache.Later next) : request.WellFormed next where
  asked := later.asked h.asked
  recent := h.recent
  brought := fun outcome brought => later.brought (h.brought outcome brought)

theorem Answer.Truthful.later {answer : Answer} {cache next : Cache} (h : answer.Truthful cache)
    (later : cache.Later next) : answer.Truthful next := by
  cases h with
  | inl brought => exact .inl (later.brought brought)
  | inr pending => exact .inr ⟨later.asked pending.1, pending.2⟩

theorem Cache.pollFlight_counted (source : Source (StateM σ)) (cache : Cache) (number : Nat)
    (provider : σ) (calls : List DataKey) :
    (cache.pollFlight source.counted number).run (provider, calls) =
      let (answer, after) := (cache.pollFlight source number).run provider
      (answer, after, calls) := by
  unfold pollFlight
  split
  · rfl
  · rfl
  · rename_i key mode found
    have counted : (source.counted.advance key).run (provider, calls) =
        let (answer, after) := (source.advance key).run provider
        (answer, after, calls) := rfl
    rw [StateT.run_bind, StateT.run_bind, counted]
    cases (source.advance key).run provider with
    | mk answer after => cases answer <;> rfl

theorem Cache.get_counted (source : Source (StateM σ)) (cache : Cache) (key : DataKey)
    (provider : σ) (calls : List DataKey) :
    (cache.get source.counted key).run (provider, calls) =
      let (answer, after) := (cache.get source key).run provider
      (answer, after, if cache.slot? key = none then calls ++ [key] else calls) := by
  unfold get
  cases known : cache.slot? key with
  | none => rfl
  | some slot =>
    cases slot with
    | settled outcome => rfl
    | loading number =>
      simp only [reduceCtorEq, if_false]
      rw [StateT.run_bind, StateT.run_bind, pollFlight_counted]
      cases (cache.pollFlight source number).run provider with
      | mk result after =>
        obtain ⟨answer, next⟩ := result
        cases answer <;> rfl

namespace Session

variable {session : Session σ}

theorem WellFormed.next {next : Session σ} (h : session.WellFormed)
    (later : session.cache.Later next.cache)
    (sound : next.cache.Sound next.forgotten next.origin)
    (calls : next.calls = next.cache.history.filterMap (Load.keyIn? .blocking))
    (requests : ∀ request ∈ next.requests,
      request ∈ session.requests ∨ request.WellFormed next.cache)
    (answers : ∀ answer ∈ next.answers,
      answer ∈ session.answers ∨ answer.Truthful next.cache) : next.WellFormed where
  sound := sound
  calls := calls
  requests := fun request member =>
    (requests request member).elim (fun old => (h.requests request old).later later) id
  truthful := fun answer member =>
    (answers answer member).elim (fun old => (h.truthful answer old).later later) id

theorem answers_append {answers : List Answer} {new : Answer} {cache : Cache}
    (truthful : new.Truthful cache) :
    ∀ answer ∈ answers ++ [new], answer ∈ answers ∨ answer.Truthful cache := by
  intro answer member
  rcases List.mem_append.mp member with old | here
  · exact .inl old
  · exact .inr (List.mem_singleton.mp here ▸ truthful)

theorem filterMap_keyIn?_finish (cache : Cache) (number : Nat) (outcome : Outcome)
    (mode : LoadMode) : (cache.finish number outcome).history.filterMap (Load.keyIn? mode) =
      cache.history.filterMap (Load.keyIn? mode) := by
  have same := cache.map_history_finish number outcome (Load.keyIn? mode) fun _ => rfl
  have split : ∀ loads : List Load,
      loads.filterMap (Load.keyIn? mode) = (loads.map (Load.keyIn? mode)).filterMap id :=
    fun loads => by rw [List.filterMap_map, Function.id_comp]
  rw [split, split, same]

theorem get_eq (source : Source (StateM σ)) (session : Session σ) (key : DataKey) :
    let result := (session.cache.get source key).run session.provider
    session.get source key =
      { session with
        provider := result.2
        calls := if session.cache.slot? key = none then session.calls ++ [key] else session.calls
        cache := result.1.2
        answers := session.answers ++ [session.answer key result.1.1]
        origin := Function.update session.origin key (session.supplier key) } := by
  rw [Session.get, Cache.get_counted]
  rfl

theorem WellFormed.get (h : session.WellFormed) (source : Source (StateM σ)) (key : DataKey) :
    (session.get source key).WellFormed := by
  have got := session.cache.get_got source key session.provider
  rw [get_eq]
  generalize (session.cache.get source key).run session.provider = result at got
  cases got with
  | settled outcome known =>
    have supplier : session.supplier key = session.origin key := by simp [Session.supplier, known]
    refine h.next (.refl _) ?_ ?_ (fun _ => .inl) (answers_append (.inl ?_))
    · simp only [supplier, Function.update_eq_self]
      exact h.sound
    · simp only [known, reduceCtorEq, if_false]
      exact h.calls
    · simp only [Session.answer, supplier]
      exact h.sound.settled known
  | unfinished number after flying waits =>
    have supplier : session.supplier key = number := by simp [Session.supplier, flying]
    refine h.next (.refl _) ?_ ?_ (fun _ => .inl) (answers_append (.inr ⟨?_, rfl⟩))
    · refine h.sound.of_origin_eq ?_
      intro other outcome known
      refine Function.update_of_ne ?_ _ _
      rintro rfl
      rw [flying] at known
      cases known
    · simp only [flying, reduceCtorEq, if_false]
      exact h.calls
    · simp only [Session.answer, supplier]
      exact h.sound.asked_of_loading flying
  | finished number outcome after flying arrives =>
    have supplier : session.supplier key = number := by simp [Session.supplier, flying]
    have brings := arrives.brings
    have brought := (h.sound.asked_of_loading flying).brought_finish outcome
    have known : (session.cache.finish number outcome).slot? key ≠ none := by
      rw [Cache.slot?_finish, flying]
      exact Option.some_ne_none _
    refine h.next (brings.later_finish.trans (.of_history_eq rfl)) ?_ ?_ (fun _ => .inl)
      (answers_append (.inl ?_))
    · simp only [supplier]
      exact (h.sound.finish brings).settle known brought
    · simp only [flying, reduceCtorEq, if_false]
      exact h.calls.trans (filterMap_keyIn?_finish _ _ _ _).symm
    · simp only [Session.answer, supplier]
      exact brought
  | missing outcome after unknown loaded =>
    have supplier : session.supplier key = session.cache.loadCount := by
      simp [Session.supplier, unknown]
    refine h.next (.of_history_append rfl) ?_ ?_ (fun _ => .inl) (answers_append (.inl ?_))
    · simp only [supplier]
      refine h.sound.add ⟨key, .blocking, some outcome⟩ unknown
        (fun other elsewhere => Function.update_of_ne elsewhere _ _) nofun ?_
      rintro kept ⟨⟩
      exact ⟨Function.update_self _ _ _, rfl⟩
    · simp only [unknown, if_true]
      rw [h.calls, Cache.history_settle, Cache.record, List.filterMap_append]
      rfl
    · simp only [Session.answer, supplier]
      exact ⟨_, List.getElem?_concat_length, rfl, rfl⟩

theorem requests_append {requests : List Request} {new : Request} {cache : Cache}
    (wellFormed : new.WellFormed cache) :
    ∀ request ∈ requests ++ [new], request ∈ requests ∨ request.WellFormed cache := by
  intro request member
  rcases List.mem_append.mp member with old | here
  · exact .inl old
  · exact .inr (List.mem_singleton.mp here ▸ wellFormed)

theorem WellFormed.begin (h : session.WellFormed) (key : DataKey) :
    (session.begin key).WellFormed := by
  unfold Session.begin Cache.request
  cases slot : session.cache.slot? key with
  | none =>
    refine h.next (.of_history_append rfl) ?_ ?_ (requests_append ⟨?_, ?_, nofun⟩) (fun _ => .inl)
    · refine h.sound.add ⟨key, .started, none⟩ slot (fun _ _ => rfl) ?_ nofun
      rintro number ⟨⟩
      exact ⟨rfl, rfl⟩
    · rw [h.calls, Cache.startFlight, List.filterMap_append]
      exact (List.append_nil _).symm
    · exact ⟨_, List.getElem?_concat_length, rfl⟩
    · exact h.sound.past
  | some slot' =>
    cases slot' with
    | settled outcome =>
      refine h.next (.refl _) h.sound h.calls (fun _ => .inl) (answers_append (.inl ?_))
      simp only [answer, supplier, slot]
      exact h.sound.settled slot
    | loading number =>
      refine h.next (.refl _) h.sound h.calls (requests_append ⟨?_, ?_, nofun⟩) (fun _ => .inl)
      · exact h.sound.asked_of_loading slot
      · exact (h.sound.loading slot).1

theorem WellFormed.poll (h : session.WellFormed) (source : Source (StateM σ)) (place : Nat) :
    (session.poll source place).WellFormed := by
  unfold Session.poll
  split
  · exact h
  · rename_i request there
    have valid := h.requests request (List.mem_of_getElem? there)
    have polled := session.cache.pollFlight_polled source request.flight session.provider
    generalize (session.cache.pollFlight source request.flight).run session.provider = result
      at polled
    cases polled with
    | unfinished after waits =>
      refine h.next (.refl _) h.sound h.calls ?_ (fun _ => .inl)
      intro other member
      rcases List.mem_or_eq_of_mem_set member with old | rfl
      · exact .inl old
      · exact .inr ⟨valid.asked, valid.recent, nofun⟩
    | finished outcome after arrives =>
      have brings := arrives.brings
      refine h.next brings.later_finish (h.sound.finish brings) ?_ ?_ (fun _ => .inl)
      · exact h.calls.trans (filterMap_keyIn?_finish _ _ _ _).symm
      · intro other member
        rcases List.mem_or_eq_of_mem_set member with old | rfl
        · exact .inl old
        · refine .inr ⟨brings.later_finish.asked valid.asked, valid.recent, ?_⟩
          rintro known ⟨⟩
          exact valid.asked.brought_finish outcome

theorem WellFormed.land (h : session.WellFormed) (place : Nat) :
    (session.land place).WellFormed := by
  unfold Session.land
  split
  · rename_i key number forgotten outcome there
    have valid := h.requests _ (List.mem_of_getElem? there)
    have brought := valid.brought outcome rfl
    have history := session.cache.land_history key outcome
    refine h.next (.of_history_eq history) ?_ ?_
      (fun request member => .inl (List.mem_of_mem_eraseIdx member))
      (answers_append (.inl ((Cache.Later.of_history_eq history).brought brought)))
    · simp only [Cache.land]
      split
      · rename_i flight flying
        rw [flying]
        exact h.sound.settle (by rw [flying]; exact Option.some_ne_none _) brought
      · rename_i landed
        rw [if_neg]
        · exact h.sound
        · intro loading
          obtain ⟨slot, there, loading⟩ := Option.any_eq_true .. |>.mp loading
          cases slot with
          | settled outcome => cases loading
          | loading flight => exact landed flight there
    · rw [history]
      exact h.calls
  · exact h

theorem WellFormed.step (h : session.WellFormed) (source : Source (StateM σ)) (event : Event σ) :
    (session.step source event).WellFormed := by
  cases event with
  | change provider => exact ⟨h.sound, h.calls, h.requests, h.truthful⟩
  | get key => exact h.get source key
  | begin key => exact h.begin key
  | poll place => exact h.poll source place
  | land place => exact h.land place
  | drop place =>
    exact h.next (.refl _) h.sound h.calls (fun _ member => .inl (List.mem_of_mem_eraseIdx member))
      (fun _ => .inl)
  | clear =>
    exact h.next (.of_history_eq rfl) (.cleared _ _) h.calls (fun _ => .inl) (fun _ => .inl)

theorem run_append_singleton (source : Source (StateM σ)) (provider : σ)
    (events : List (Event σ)) (event : Event σ) :
    run source provider (events ++ [event]) = (run source provider events).step source event := by
  rw [run, List.foldl_append]
  rfl

theorem wellFormed_run (source : Source (StateM σ)) (provider : σ) (events : List (Event σ)) :
    (run source provider events).WellFormed := by
  induction events using List.reverseRecOn with
  | nil => exact ⟨.empty _, rfl, nofun, nofun⟩
  | append_singleton events event ih =>
    rw [run_append_singleton]
    exact ih.step source event

end Session

end Postal
