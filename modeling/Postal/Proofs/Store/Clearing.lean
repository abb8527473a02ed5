import Postal.Proofs.Store.LoadOnce

namespace Postal

variable {σ : Type}

def Source.current : Source (StateM Outcome) where
  load _ := get
  advance _ := some <$> get

namespace Session

variable {session : Session σ} {source : Source (StateM σ)}

/-- The request at a place is about to land on a dataset that another flight is loading. -/
def Stray (session : Session σ) (place : Nat) : Prop :=
  ∃ request number, session.requests[place]? = some request ∧ request.brought ≠ none ∧
    session.cache.slot? request.key = some (.loading number) ∧ number ≠ request.flight

structure Fresh (session : Session σ) : Prop where
  kept : ∀ key outcome, session.cache.slot? key = some (.settled outcome) →
    session.forgotten ≤ session.origin key
  answers : ∀ answer ∈ session.answers, answer.Fresh

theorem Fresh.forgotten_le_supplier (fresh : session.Fresh) (h : session.WellFormed)
    (key : DataKey) : session.forgotten ≤ session.supplier key := by
  unfold supplier
  split
  · exact h.sound.past
  · rename_i number flying
    exact (h.sound.loading flying).1
  · rename_i outcome known
    exact fresh.kept _ _ known

theorem fresh_append {answers : List Answer} {new : Answer}
    (old : ∀ answer ∈ answers, answer.Fresh) (fresh : new.Fresh) :
    ∀ answer ∈ answers ++ [new], answer.Fresh := by
  intro answer member
  rcases List.mem_append.mp member with before | here
  · exact old answer before
  · exact List.mem_singleton.mp here ▸ fresh

theorem Fresh.kept_update (fresh : session.Fresh) {next : Cache} {key : DataKey} {number : Nat}
    (recent : session.forgotten ≤ number)
    (others : ∀ other outcome, other ≠ key → next.slot? other = some (.settled outcome) →
      session.cache.slot? other = some (.settled outcome)) (other : DataKey) (outcome : Outcome)
    (known : next.slot? other = some (.settled outcome)) :
    session.forgotten ≤ Function.update session.origin key number other := by
  by_cases here : other = key
  · rw [here, Function.update_self]
    exact recent
  · rw [Function.update_of_ne here]
    exact fresh.kept _ _ (others other outcome here known)

theorem settled_of_settle {cache : Cache} {key other : DataKey} {outcome known : Outcome}
    (elsewhere : other ≠ key)
    (settled : (cache.settle key outcome).slot? other = some (.settled known)) :
    cache.slot? other = some (.settled known) := by
  rwa [Cache.slot?_settle, if_neg elsewhere] at settled

theorem Fresh.get (fresh : session.Fresh) (h : session.WellFormed) (key : DataKey) :
    (session.get source key).Fresh := by
  have recent := fresh.forgotten_le_supplier h key
  have got := session.cache.get_got source key session.provider
  rw [get_eq]
  generalize (session.cache.get source key).run session.provider = result at got
  refine ⟨fresh.kept_update recent ?_, fresh_append fresh.answers recent⟩
  intro other outcome elsewhere known
  cases got with
  | settled => exact known
  | unfinished => exact known
  | finished => exact settled_of_settle elsewhere known
  | missing => exact settled_of_settle elsewhere known

theorem Fresh.begin (fresh : session.Fresh) (h : session.WellFormed) (key : DataKey) :
    (session.begin key).Fresh := by
  have recent := fresh.forgotten_le_supplier h key
  unfold Session.begin Cache.request
  cases slot : session.cache.slot? key with
  | none =>
    refine ⟨?_, fresh.answers⟩
    intro other outcome known
    rw [Cache.slot?_startFlight] at known
    split at known
    · cases known
    · exact fresh.kept _ _ known
  | some known =>
    cases known with
    | settled outcome => exact ⟨fresh.kept, fresh_append fresh.answers recent⟩
    | loading number => exact ⟨fresh.kept, fresh.answers⟩

theorem Fresh.poll (fresh : session.Fresh) (place : Nat) : (session.poll source place).Fresh := by
  unfold Session.poll
  split
  · exact fresh
  · rename_i request there
    have polled := session.cache.pollFlight_polled source request.flight session.provider
    generalize (session.cache.pollFlight source request.flight).run session.provider = result
      at polled
    cases polled with
    | unfinished after waits => exact ⟨fresh.kept, fresh.answers⟩
    | finished outcome after arrives => exact ⟨fresh.kept, fresh.answers⟩

theorem Fresh.land (fresh : session.Fresh) (h : session.WellFormed) {place : Nat}
    (own : ¬ session.Stray place) : (session.land place).Fresh := by
  unfold Session.land
  split
  · rename_i key flight forgotten outcome there
    have recent := (h.requests _ (List.mem_of_getElem? there)).recent
    refine ⟨?_, fresh_append fresh.answers recent⟩
    simp only [Cache.land]
    split
    · rename_i number flying
      have same : number = flight := by
        by_contra different
        exact own ⟨_, number, there, Option.some_ne_none outcome, flying, different⟩
      have late := (h.sound.loading flying).1
      rw [flying]
      exact fresh.kept_update (same ▸ late) fun _ _ => settled_of_settle
    · rename_i landed
      have unloading : (session.cache.slot? key).any Slot.isLoading = false := by
        cases slot : session.cache.slot? key with
        | none => rfl
        | some slot' =>
          cases slot' with
          | settled => rfl
          | loading number => exact absurd slot (landed number)
      rw [unloading]
      exact fresh.kept
  · exact fresh

theorem Fresh.step (fresh : session.Fresh) (h : session.WellFormed) {event : Event σ}
    (own : ∀ place, event = .land place → ¬ session.Stray place) :
    (session.step source event).Fresh := by
  cases event with
  | change provider => exact ⟨fresh.kept, fresh.answers⟩
  | get key => exact fresh.get h key
  | begin key => exact fresh.begin h key
  | poll place => exact fresh.poll place
  | land place => exact fresh.land h (own place rfl)
  | drop place => exact ⟨fresh.kept, fresh.answers⟩
  | clear => exact ⟨nofun, fresh.answers⟩

theorem fresh_run (source : Source (StateM σ)) (provider : σ) {events : List (Event σ)}
    (own : ∀ before place, before ++ [.land place] <+: events →
      ¬ (run source provider before).Stray place) : (run source provider events).Fresh := by
  induction events using List.reverseRecOn with
  | nil => exact ⟨nofun, nofun⟩
  | append_singleton events event ih =>
    rw [run_append_singleton]
    refine (ih ?_).step (wellFormed_run source provider events) ?_
    · exact fun before place earlier => own before place (earlier.trans (List.prefix_append ..))
    · rintro place rfl
      exact own events place (List.prefix_refl _)

theorem WellFormed.stale_of_stray (h : session.WellFormed) {place : Nat}
    (stray : session.Stray place) (source : Source (StateM σ)) :
    ∃ key, ∃ answer ∈ ((session.land place).get source key).answers, ¬ answer.Fresh := by
  obtain ⟨⟨key, flight, forgotten, brought⟩, number, there, landing, flying, different⟩ := stray
  obtain ⟨outcome, rfl⟩ := Option.ne_none_iff_exists'.mp landing
  have request := h.requests _ (List.mem_of_getElem? there)
  have early : ¬ session.forgotten ≤ flight := by
    intro late
    have asked := h.sound.asked_of_loading flying
    exact different (h.sound.unique (h.sound.loading flying).1 late asked request.asked)
  have landed : session.land place =
      { session with
        cache := session.cache.settle key outcome
        requests := session.requests.eraseIdx place
        answers := session.answers ++ [⟨key, outcome, forgotten, flight⟩]
        origin := Function.update session.origin key flight } := by
    simp [Session.land, there, Cache.land, flying, Slot.isLoading]
  refine ⟨key, (session.land place).answer key outcome, ?_, ?_⟩
  · have settled : (session.land place).cache.slot? key = some (.settled outcome) := by
      rw [landed, Cache.slot?_settle, if_pos rfl]
    rw [get_eq, Cache.get, settled]
    exact List.mem_append_right _ (List.mem_singleton_self _)
  · have supplier : (session.land place).supplier key = flight := by
      rw [landed, Session.supplier, Cache.slot?_settle, if_pos rfl]
      exact Function.update_self ..
    rw [Answer.Fresh, answer, supplier, landed]
    exact early

/-- At every moment of a run all look-ups, those included that could be made then, are answered from
loads that were asked for after the last clearing before they began, just if no request of the run
lands on a dataset that another flight is loading. -/
theorem fresh_answers_iff (source : Source (StateM σ)) (provider : σ) (events : List (Event σ)) :
    (∀ before, before <+: events → ∀ key,
      let session := run source provider (before ++ [.get key])
      ∀ answer ∈ session.answers, answer.Truthful session.cache ∧ answer.Fresh) ↔
      ∀ before place, before ++ [.land place] <+: events →
        ¬ (run source provider before).Stray place := by
  constructor
  · intro fresh before place earlier stray
    have wellFormed := wellFormed_run source provider before
    obtain ⟨key, answer, member, stale⟩ := wellFormed.stale_of_stray stray source
    refine stale (fresh (before ++ [.land place]) earlier key answer ?_).2
    rw [run_append_singleton, run_append_singleton]
    exact member
  · intro own before earlier key session answer member
    have truthful := (wellFormed_run source provider (before ++ [.get key])).truthful
    have kept : (run source provider before).Fresh :=
      fresh_run source provider fun start place early => own start place (early.trans earlier)
    have fresh : (run source provider (before ++ [.get key])).Fresh := by
      rw [run_append_singleton]
      exact kept.step (wellFormed_run source provider before) nofun
    exact ⟨truthful answer member, fresh.answers answer member⟩

theorem forgotten_flight_answers :
    let key : DataKey := ⟨DataKey.address, "und-JP"⟩
    let session := run Source.current (.ok none)
      [.begin key, .clear, .begin key, .poll 0, .land 0, .change (.ok (some .null)), .poll 0,
        .land 0, .get key]
    ∃ answer ∈ session.answers, pends answer.outcome = false ∧
      ∀ number, answer.forgotten ≤ number →
        ¬ session.cache.Brought number answer.key answer.outcome := by
  intro key session
  have answers : session.answers =
      [⟨key, .ok none, 0, 0⟩, ⟨key, .ok (some .null), 1, 1⟩, ⟨key, .ok none, 1, 0⟩] := rfl
  have history : session.cache.history =
      [⟨key, .started, some (.ok none)⟩, ⟨key, .started, some (.ok (some .null))⟩] := rfl
  refine ⟨⟨key, .ok none, 1, 0⟩, by simp [answers], rfl, ?_⟩
  rintro number late ⟨load, found, -, brought⟩
  rw [history] at found
  match number, late with
  | 1, _ =>
    cases found
    cases brought
  | number + 2, _ => cases found

end Session

end Postal
