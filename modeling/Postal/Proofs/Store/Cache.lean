import Mathlib.Data.List.Nodup
import Mathlib.Logic.Function.Basic
import Postal.Store.Cache

namespace Postal

variable {σ : Type}

/-- A source whose loads do not finish before a gate is opened. -/
def Source.gated (answers : DataKey → Outcome) : Source (StateM Bool) where
  load key := pure (answers key)
  advance key := do return if ← get then some (answers key) else none

theorem Source.gated_advance {answers : DataKey → Outcome} {key : DataKey} {isOpen : Bool}
    {outcome : Outcome}
    (brought : (((gated answers).advance key).run isOpen).1 = some outcome) :
    outcome = answers key := by
  cases isOpen with
  | false => cases brought
  | true => exact (Option.some.inj brought).symm

theorem modify_concat {α : Type} (items : List α) (last : α) (change : α → α) :
    (items ++ [last]).modify items.length change = items ++ [change last] := by
  induction items with
  | nil => rfl
  | cons item items ih =>
    rw [List.cons_append, List.length_cons, List.modify_succ_cons, ih, List.cons_append]

namespace Cache

theorem lookup_putSlot (key other : DataKey) (slot : Slot) (slots : List (DataKey × Slot)) :
    (putSlot key slot slots).lookup other =
      if other = key then some slot else slots.lookup other := by
  induction slots with
  | nil =>
    rw [putSlot, List.lookup_cons]
    by_cases here : other = key
    · simp [here]
    · simp [here, beq_eq_false_iff_ne.mpr here]
  | cons first slots ih =>
    obtain ⟨name, kept⟩ := first
    rw [putSlot]
    split
    · rename_i same
      subst same
      by_cases here : other = name
      · simp [here]
      · simp [List.lookup_cons, here, beq_eq_false_iff_ne.mpr here]
    · rename_i different
      rw [List.lookup_cons, List.lookup_cons, ih]
      by_cases here : other = name
      · subst here
        simp [different]
      · simp [beq_eq_false_iff_ne.mpr here]

theorem map_putSlot_of_mem {key : DataKey} {slots : List (DataKey × Slot)} (slot : Slot)
    (known : key ∈ slots.map (·.1)) : (putSlot key slot slots).map (·.1) = slots.map (·.1) := by
  induction slots with
  | nil => cases known
  | cons first slots ih =>
    obtain ⟨name, kept⟩ := first
    rw [putSlot]
    split
    · rename_i same
      rw [List.map_cons, List.map_cons, same]
    · rename_i different
      rw [List.map_cons, List.map_cons, ih]
      exact (List.mem_cons.mp known).resolve_left fun same => different same.symm

theorem map_putSlot_of_not_mem {key : DataKey} {slots : List (DataKey × Slot)} (slot : Slot)
    (unknown : key ∉ slots.map (·.1)) :
    (putSlot key slot slots).map (·.1) = slots.map (·.1) ++ [key] := by
  induction slots with
  | nil => rfl
  | cons first slots ih =>
    obtain ⟨name, kept⟩ := first
    rw [List.map_cons, List.mem_cons, not_or] at unknown
    rw [putSlot, if_neg (Ne.symm unknown.1), List.map_cons, List.map_cons, ih unknown.2,
      List.cons_append]

theorem slot?_eq_none_iff (cache : Cache) (key : DataKey) :
    cache.slot? key = none ↔ key ∉ cache.slots.map (·.1) := by
  rw [slot?, List.lookup_eq_none_iff, List.mem_map]
  constructor
  · rintro absent ⟨entry, member, same⟩
    exact (bne_iff_ne.mp (absent entry member)) same.symm
  · intro unknown entry member
    exact bne_iff_ne.mpr fun same => unknown ⟨entry, member, same.symm⟩

theorem slot?_settle (cache : Cache) (key other : DataKey) (outcome : Outcome) :
    (cache.settle key outcome).slot? other =
      if other = key then some (.settled outcome) else cache.slot? other :=
  lookup_putSlot key other (.settled outcome) cache.slots

theorem slot?_startFlight (cache : Cache) (key other : DataKey) :
    (cache.startFlight key).slot? other =
      if other = key then some (.loading cache.loadCount) else cache.slot? other :=
  lookup_putSlot key other (.loading cache.loadCount) cache.slots

theorem slot?_finish (cache : Cache) (number : Nat) (outcome : Outcome) (key : DataKey) :
    (cache.finish number outcome).slot? key = cache.slot? key := rfl

theorem history_settle (cache : Cache) (key : DataKey) (outcome : Outcome) :
    (cache.settle key outcome).history = cache.history := rfl

theorem history_clear (cache : Cache) : cache.clear.history = cache.history := rfl

theorem land_history (cache : Cache) (key : DataKey) (outcome : Outcome) :
    (cache.land key outcome).history = cache.history := by
  unfold land
  split <;> rfl

def Asked (cache : Cache) (number : Nat) (key : DataKey) : Prop :=
  ∃ load, cache.history[number]? = some load ∧ load.key = key

def Brought (cache : Cache) (number : Nat) (key : DataKey) (outcome : Outcome) : Prop :=
  ∃ load, cache.history[number]? = some load ∧ load.key = key ∧ load.outcome = some outcome

def Brings (cache : Cache) (number : Nat) (outcome : Outcome) : Prop :=
  ∃ load, cache.history[number]? = some load ∧ ∀ known, load.outcome = some known → known = outcome

structure Later (old new : Cache) : Prop where
  asked : ∀ {number key}, old.Asked number key → new.Asked number key
  brought : ∀ {number key outcome}, old.Brought number key outcome → new.Brought number key outcome

theorem Brought.toAsked {cache : Cache} {number : Nat} {key : DataKey} {outcome : Outcome}
    (h : cache.Brought number key outcome) : cache.Asked number key := by
  obtain ⟨load, found, same, -⟩ := h
  exact ⟨load, found, same⟩

theorem Later.refl (cache : Cache) : cache.Later cache :=
  ⟨id, id⟩

theorem Later.trans {old middle new : Cache} (first : old.Later middle) (second : middle.Later new) :
    old.Later new :=
  ⟨second.asked ∘ first.asked, second.brought ∘ first.brought⟩

theorem Later.of_history_eq {old new : Cache} (h : new.history = old.history) : old.Later new := by
  constructor
  · rintro number key ⟨load, found, same⟩
    exact ⟨load, h ▸ found, same⟩
  · rintro number key outcome ⟨load, found, same, brought⟩
    exact ⟨load, h ▸ found, same, brought⟩

theorem Later.of_history_append {old new : Cache} {loads : List Load}
    (h : new.history = old.history ++ loads) : old.Later new := by
  have stays : ∀ {number : Nat} {load : Load}, old.history[number]? = some load →
      new.history[number]? = some load := by
    intro number load found
    rw [h, List.getElem?_append_left (List.getElem?_eq_some_iff.mp found).1]
    exact found
  constructor
  · rintro number key ⟨load, found, same⟩
    exact ⟨load, stays found, same⟩
  · rintro number key outcome ⟨load, found, same, brought⟩
    exact ⟨load, stays found, same, brought⟩

theorem getElem?_finish (cache : Cache) (number other : Nat) (outcome : Outcome) :
    (cache.finish number outcome).history[other]? =
      cache.history[other]?.map fun load =>
        if number = other then { load with outcome := some outcome } else load :=
  List.getElem?_modify _ number cache.history other

theorem Brings.later_finish {cache : Cache} {number : Nat} {outcome : Outcome}
    (h : cache.Brings number outcome) : cache.Later (cache.finish number outcome) := by
  obtain ⟨flown, foundFlown, only⟩ := h
  constructor
  · rintro other key ⟨load, found, same⟩
    refine ⟨_, by rw [getElem?_finish, found]; rfl, ?_⟩
    split <;> exact same
  · rintro other key kept ⟨load, found, same, brought⟩
    refine ⟨_, by rw [getElem?_finish, found]; rfl, ?_, ?_⟩
    · split <;> exact same
    · split
      · rename_i here
        subst here
        rw [foundFlown] at found
        cases found
        rw [only kept brought]
      · exact brought

theorem Asked.brought_finish {cache : Cache} {number : Nat} {key : DataKey}
    (asked : cache.Asked number key) (outcome : Outcome) :
    (cache.finish number outcome).Brought number key outcome := by
  obtain ⟨load, found, same⟩ := asked
  exact ⟨{ load with outcome := some outcome }, by rw [getElem?_finish, found]; simp, same, rfl⟩

theorem map_history_finish {α : Type} (cache : Cache) (number : Nat) (outcome : Outcome)
    (f : Load → α) (same : ∀ load, f { load with outcome := some outcome } = f load) :
    (cache.finish number outcome).history.map f = cache.history.map f := by
  apply List.ext_getElem?
  intro other
  rw [List.getElem?_map, List.getElem?_map, getElem?_finish, Option.map_map]
  congr 1
  funext load
  simp only [Function.comp]
  split
  · exact same load
  · rfl

def Waits (source : Source (StateM σ)) (cache : Cache) (number : Nat) (provider after : σ) : Prop :=
  ∀ load, cache.history[number]? = some load →
    load.outcome = none ∧ (source.advance load.key).run provider = (none, after)

def Arrives (source : Source (StateM σ)) (cache : Cache) (number : Nat) (provider : σ)
    (outcome : Outcome) (after : σ) : Prop :=
  ∃ load, cache.history[number]? = some load ∧
    (load.outcome = some outcome ∨
      load.outcome = none ∧ (source.advance load.key).run provider = (some outcome, after))

inductive Polled (source : Source (StateM σ)) (cache : Cache) (number : Nat) (provider : σ) :
    (Option Outcome × Cache) × σ → Prop
  | unfinished (after : σ) (waits : Waits source cache number provider after) :
      Polled source cache number provider ((none, cache), after)
  | finished (outcome : Outcome) (after : σ)
      (arrives : Arrives source cache number provider outcome after) :
      Polled source cache number provider ((some outcome, cache.finish number outcome), after)

inductive Got (source : Source (StateM σ)) (cache : Cache) (key : DataKey) (provider : σ) :
    (Outcome × Cache) × σ → Prop
  | settled (outcome : Outcome) (known : cache.slot? key = some (.settled outcome)) :
      Got source cache key provider ((outcome, cache), provider)
  | unfinished (number : Nat) (after : σ) (flying : cache.slot? key = some (.loading number))
      (waits : Waits source cache number provider after) :
      Got source cache key provider ((.error (.pending key), cache), after)
  | finished (number : Nat) (outcome : Outcome) (after : σ)
      (flying : cache.slot? key = some (.loading number))
      (arrives : Arrives source cache number provider outcome after) :
      Got source cache key provider
        ((outcome, (cache.finish number outcome).settle key outcome), after)
  | missing (outcome : Outcome) (after : σ) (unknown : cache.slot? key = none)
      (loaded : (source.load key).run provider = (outcome, after)) :
      Got source cache key provider
        ((outcome, (cache.record ⟨key, .blocking, some outcome⟩).settle key outcome), after)

theorem Arrives.brings {source : Source (StateM σ)} {cache : Cache} {number : Nat}
    {provider after : σ} {outcome : Outcome}
    (h : Arrives source cache number provider outcome after) : cache.Brings number outcome := by
  obtain ⟨load, found, comes⟩ := h
  refine ⟨load, found, fun known here => ?_⟩
  rcases comes with already | ⟨unfinished, -⟩
  · exact Option.some.inj (here.symm.trans already)
  · rw [unfinished] at here
    cases here

theorem finish_again {cache : Cache} {number : Nat} {load : Load} {outcome : Outcome}
    (found : cache.history[number]? = some load) (known : load.outcome = some outcome) :
    cache.finish number outcome = cache := by
  have same : (cache.finish number outcome).history = cache.history := by
    apply List.ext_getElem?
    intro other
    rw [getElem?_finish]
    by_cases here : number = other
    · subst here
      rw [found, Option.map_some, if_pos rfl, ← known]
    · simp [here]
  obtain ⟨slots, history⟩ := cache
  exact congrArg (Cache.mk slots) same

theorem pollFlight_polled (source : Source (StateM σ)) (cache : Cache) (number : Nat)
    (provider : σ) :
    Polled source cache number provider ((cache.pollFlight source number).run provider) := by
  unfold pollFlight
  split
  · rename_i missing
    exact .unfinished provider fun load found => by rw [missing] at found; cases found
  · rename_i key mode outcome found
    have finished : Polled source cache number provider
        ((some outcome, cache.finish number outcome), provider) :=
      .finished outcome provider ⟨_, found, .inl rfl⟩
    rw [finish_again found rfl] at finished
    exact finished
  · rename_i key mode found
    rw [StateT.run_bind]
    cases advanced : (source.advance key).run provider with
    | mk answer after =>
      cases answer with
      | none =>
        refine .unfinished after fun load here => ?_
        rw [found] at here
        cases here
        exact ⟨rfl, advanced⟩
      | some outcome => exact .finished outcome after ⟨_, found, .inr ⟨rfl, advanced⟩⟩

theorem get_got (source : Source (StateM σ)) (cache : Cache) (key : DataKey) (provider : σ) :
    Got source cache key provider ((cache.get source key).run provider) := by
  unfold get
  split
  · rename_i outcome known
    exact .settled outcome known
  · rename_i number flying
    have polled := pollFlight_polled source cache number provider
    rw [StateT.run_bind]
    generalize (cache.pollFlight source number).run provider = result at polled
    cases polled with
    | unfinished after waits => exact .unfinished number after flying waits
    | finished outcome after arrives => exact .finished number outcome after flying arrives
  · rename_i unknown
    rw [StateT.run_bind]
    exact .missing _ _ unknown rfl

/-- In a sound cache every slot goes back to a load of its dataset: `origin` tells which load has
brought what is settled. The slots are those of the loads that were asked for since the slots were
last cleared, which was when `forgotten` loads had been asked for. -/
structure Sound (cache : Cache) (forgotten : Nat) (origin : DataKey → Nat) : Prop where
  known : cache.slots.map (·.1) = (cache.history.drop forgotten).map (·.key)
  different : (cache.slots.map (·.1)).Nodup
  past : forgotten ≤ cache.loadCount
  loading : ∀ {key number}, cache.slot? key = some (.loading number) →
    forgotten ≤ number ∧ ∃ outcome, cache.history[number]? = some ⟨key, .started, outcome⟩
  settled : ∀ {key outcome}, cache.slot? key = some (.settled outcome) →
    cache.Brought (origin key) key outcome

namespace Sound

variable {cache : Cache} {forgotten : Nat} {origin : DataKey → Nat}

theorem empty (origin : DataKey → Nat) : Sound {} 0 origin where
  known := rfl
  different := List.nodup_nil
  past := Nat.le_refl _
  loading := nofun
  settled := nofun

theorem asked_of_loading (sound : cache.Sound forgotten origin) {key : DataKey} {number : Nat}
    (flying : cache.slot? key = some (.loading number)) : cache.Asked number key := by
  obtain ⟨-, outcome, found⟩ := sound.loading flying
  exact ⟨_, found, rfl⟩

theorem unique (sound : cache.Sound forgotten origin) {key : DataKey} {first second : Nat}
    (lateFirst : forgotten ≤ first) (lateSecond : forgotten ≤ second)
    (askedFirst : cache.Asked first key) (askedSecond : cache.Asked second key) :
    first = second := by
  have keyAt : ∀ {number : Nat}, forgotten ≤ number → cache.Asked number key →
      ((cache.history.drop forgotten).map (·.key))[number - forgotten]? = some key := by
    rintro number late ⟨load, found, same⟩
    rw [List.getElem?_map, List.getElem?_drop, Nat.add_sub_cancel' late, found, Option.map_some,
      same]
  have different := sound.different
  rw [sound.known] at different
  have atFirst := keyAt lateFirst askedFirst
  have inside := (List.getElem?_eq_some_iff.mp atFirst).1
  have same := (List.getElem?_inj inside different).mp
    (atFirst.trans (keyAt lateSecond askedSecond).symm)
  omega

theorem cleared (cache : Cache) (origin : DataKey → Nat) :
    cache.clear.Sound cache.loadCount origin where
  known := by
    rw [history_clear, loadCount, List.drop_length]
    rfl
  different := List.nodup_nil
  past := Nat.le_refl _
  loading := nofun
  settled := nofun

theorem finish (sound : cache.Sound forgotten origin) {number : Nat} {outcome : Outcome}
    (brings : cache.Brings number outcome) : (cache.finish number outcome).Sound forgotten origin where
  known := by
    rw [List.map_drop, map_history_finish _ _ _ _ fun _ => rfl, ← List.map_drop]
    exact sound.known
  different := sound.different
  past := by
    rw [loadCount, Cache.finish, List.length_modify]
    exact sound.past
  loading := by
    intro key flight flying
    obtain ⟨late, known, found⟩ := sound.loading flying
    refine ⟨late, ?_⟩
    rw [getElem?_finish, found, Option.map_some]
    split
    · exact ⟨some outcome, rfl⟩
    · exact ⟨known, rfl⟩
  settled := fun known => brings.later_finish.brought (sound.settled known)

theorem of_origin_eq (sound : cache.Sound forgotten origin) {later : DataKey → Nat}
    (same : ∀ {key outcome}, cache.slot? key = some (.settled outcome) → later key = origin key) :
    cache.Sound forgotten later where
  known := sound.known
  different := sound.different
  past := sound.past
  loading := sound.loading
  settled := fun known => by
    rw [same known]
    exact sound.settled known

theorem settle (sound : cache.Sound forgotten origin) {key : DataKey} {number : Nat}
    {outcome : Outcome} (known : cache.slot? key ≠ none)
    (brought : cache.Brought number key outcome) :
    (cache.settle key outcome).Sound forgotten (Function.update origin key number) := by
  have member : key ∈ cache.slots.map (·.1) := by
    rwa [ne_eq, slot?_eq_none_iff, not_not] at known
  have slots : (cache.settle key outcome).slots.map (·.1) = cache.slots.map (·.1) :=
    map_putSlot_of_mem _ member
  refine ⟨slots.trans sound.known, slots ▸ sound.different, sound.past, ?_, ?_⟩
  · intro other flight flying
    rw [slot?_settle] at flying
    split at flying
    · cases flying
    · exact sound.loading flying
  · intro other kept there
    rw [slot?_settle] at there
    split at there
    · rename_i here
      cases there
      rw [here, Function.update_self]
      exact brought
    · rename_i elsewhere
      rw [Function.update_of_ne elsewhere]
      exact sound.settled there

theorem add (sound : cache.Sound forgotten origin) (load : Load) {slot : Slot}
    {later : DataKey → Nat} (unknown : cache.slot? load.key = none)
    (others : ∀ key, key ≠ load.key → later key = origin key)
    (flying : ∀ number, slot = .loading number →
      number = cache.loadCount ∧ load.mode = .started)
    (kept : ∀ outcome, slot = .settled outcome →
      later load.key = cache.loadCount ∧ load.outcome = some outcome) :
    Sound ⟨putSlot load.key slot cache.slots, cache.history ++ [load]⟩ forgotten later := by
  have absent := (slot?_eq_none_iff cache load.key).mp unknown
  have slots := map_putSlot_of_not_mem slot absent
  have later' : cache.Later ⟨putSlot load.key slot cache.slots, cache.history ++ [load]⟩ :=
    .of_history_append rfl
  have new : (cache.history ++ [load])[cache.loadCount]? = some load :=
    List.getElem?_concat_length
  have keys : (cache.history ++ [load]).drop forgotten = cache.history.drop forgotten ++ [load] :=
    List.drop_append_of_le_length sound.past
  refine ⟨?_, ?_, ?_, ?_, ?_⟩
  · rw [slots, keys, List.map_append, sound.known]
    rfl
  · rw [slots]
    exact List.nodup_append.mpr ⟨sound.different, List.nodup_singleton _, by
      rintro key member other here rfl
      rw [List.mem_singleton.mp here] at member
      exact absent member⟩
  · rw [loadCount, List.length_append]
    exact Nat.le_trans sound.past (Nat.le_add_right _ _)
  · intro key number there
    rw [slot?, lookup_putSlot] at there
    split at there
    · rename_i here
      obtain ⟨rfl, started⟩ := flying number (Option.some.inj there)
      refine ⟨sound.past, load.outcome, ?_⟩
      rw [new, here, ← started]
    · obtain ⟨late, outcome, found⟩ := sound.loading there
      refine ⟨late, outcome, ?_⟩
      rw [List.getElem?_append_left (List.getElem?_eq_some_iff.mp found).1, found]
  · intro key outcome there
    rw [slot?, lookup_putSlot] at there
    split at there
    · rename_i here
      obtain ⟨atEnd, brought⟩ := kept outcome (Option.some.inj there)
      rw [here, atEnd]
      exact ⟨load, new, rfl, brought⟩
    · rename_i elsewhere
      rw [others key elsewhere]
      exact later'.brought (sound.settled there)

end Sound

end Cache

end Postal
