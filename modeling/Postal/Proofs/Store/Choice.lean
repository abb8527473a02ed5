import Postal.Proofs.Store.Modes
import Postal.Proofs.Store.Truth

namespace Postal

variable {σ α : Type}

/-! ## Values and failures -/

def valueIn? : Outcome → Option Json
  | .ok value => value
  | .error _ => none

def failureIn? : Outcome → Option DataError
  | .ok _ => none
  | .error cause => some cause

def unfound : Option DataError → Except DataError (Option α)
  | none => .ok none
  | some cause => .error cause

theorem valueIn?_eq_some_iff {outcome : Outcome} {value : Json} :
    valueIn? outcome = some value ↔ outcome = .ok (some value) := by
  cases outcome <;> simp [valueIn?]

theorem failureIn?_eq_some_iff {outcome : Outcome} {cause : DataError} :
    failureIn? outcome = some cause ↔ outcome = .error cause := by
  cases outcome <;> simp [failureIn?]

theorem eq_of_valueIn?_of_failureIn? {outcome : Outcome} (noValue : valueIn? outcome = none)
    (noFailure : failureIn? outcome = none) : outcome = .ok none := by
  cases outcome with
  | ok value => exact congrArg Except.ok noValue
  | error cause => cases noFailure

theorem exists_getElem?_of_findSome? {ι β : Type} {items : List ι} {test : ι → Option β} {hit : β}
    (h : items.findSome? test = some hit) :
    ∃ (place : Nat) (item : ι), items[place]? = some item ∧ test item = some hit ∧
      ∀ earlier < place, ∀ other, items[earlier]? = some other → test other = none := by
  obtain ⟨before, item, after, rfl, found, missed⟩ := List.findSome?_eq_some_iff.mp h
  refine ⟨before.length, item, by simp, found, fun earlier lt other there => ?_⟩
  rw [List.getElem?_append_left lt] at there
  exact missed other (List.mem_of_getElem? there)

theorem exists_getElem?_of_findSome?_reverse {ι β : Type} {items : List ι} {test : ι → Option β}
    {hit : β} (h : items.reverse.findSome? test = some hit) :
    ∃ (place : Nat) (item : ι), items[place]? = some item ∧ test item = some hit ∧
      ∀ later > place, ∀ other, items[later]? = some other → test other = none := by
  obtain ⟨after, item, before, split, found, missed⟩ := List.findSome?_eq_some_iff.mp h
  obtain rfl : items = before.reverse ++ item :: after.reverse := by
    rw [← List.reverse_reverse items, split, List.reverse_append, List.reverse_cons,
      List.append_assoc, List.singleton_append]
  refine ⟨before.reverse.length, item, by simp, found, fun later gt other there => ?_⟩
  rw [List.getElem?_append_right gt.le, List.getElem?_cons, if_neg (Nat.sub_ne_zero_of_lt gt)]
    at there
  exact missed other (List.mem_reverse.mp (List.mem_of_getElem? there))

/-! ## Sources above one another -/

def joinedAfter (failure : Option DataError) (outcomes : List Outcome) : Outcome :=
  match outcomes.findSome? valueIn? with
  | some value => .ok (some value)
  | none => unfound (failure.or (outcomes.findSome? failureIn?))

def joined (answers : List (DataKey → Outcome)) (key : DataKey) : Outcome :=
  joinedAfter none (answers.map (· key))

/-- A source always gives the same answers, to those who wait as well as to those who poll. -/
structure Source.Offers (source : Source (StateM σ)) (answers : DataKey → Outcome) : Prop where
  load : ∀ key provider, ((source.load key).run provider).1 = answers key
  brings : ∀ key provider, ∃ after, source.Brings key provider (answers key) after

theorem Source.Offers.resolves {source : Source (StateM σ)} {answers : DataKey → Outcome}
    (offers : source.Offers answers) : source.Resolves fun _ _ => True := by
  intro key polled waited _
  obtain ⟨after, brings⟩ := offers.brings key polled
  rw [offers.load]
  exact ⟨after, brings, trivial⟩

theorem joinedAfter_cons_failure (failure : Option DataError) (cause : DataError)
    (outcomes : List Outcome) :
    joinedAfter failure (.error cause :: outcomes) =
      joinedAfter (failure.or (some cause)) outcomes := by
  cases failure <;> rfl

theorem run_loadFrom {layers : List (Source (StateM σ))} {answers : List (DataKey → Outcome)}
    (offered : List.Forall₂ Source.Offers layers answers) (failure : Option DataError)
    (key : DataKey) (provider : σ) :
    ((loadFrom failure key (layers.map Source.load)).run provider).1 =
      joinedAfter failure (answers.map (· key)) := by
  induction offered generalizing failure provider with
  | nil => cases failure <;> rfl
  | @cons layer answer layers answers offers _ ih =>
    have given := offers.load key provider
    rw [List.map_cons, List.map_cons, loadFrom, StateT.run_bind, ← given]
    generalize (layer.load key).run provider = loaded
    obtain ⟨outcome, after⟩ := loaded
    cases outcome with
    | ok value =>
      cases value with
      | some value => rfl
      | none => exact ih failure after
    | error cause =>
      rw [joinedAfter_cons_failure]
      exact ih (failure.or (some cause)) after

theorem load_layered {layers : List (Source (StateM σ))} {answers : List (DataKey → Outcome)}
    (offered : List.Forall₂ Source.Offers layers answers) (key : DataKey)
    (state : σ × List (DataKey × LayeredLoad (StateM σ))) :
    (((Source.layered layers).load key).run state).1 = joined answers key :=
  run_loadFrom offered none key state.1

section Joined

variable {answers : List (DataKey → Outcome)} {key : DataKey}

theorem valueIn?_joined (answers : List (DataKey → Outcome)) (key : DataKey) :
    valueIn? (joined answers key) = answers.findSome? fun answer => valueIn? (answer key) := by
  rw [joined, joinedAfter, List.findSome?_map, Option.none_or]
  change _ = answers.findSome? (valueIn? ∘ (· key))
  cases answers.findSome? (valueIn? ∘ (· key)) with
  | some value => rfl
  | none => cases (answers.map (· key)).findSome? failureIn? <;> rfl

theorem failureIn?_joined (noValue : valueIn? (joined answers key) = none) :
    failureIn? (joined answers key) = answers.findSome? fun answer => failureIn? (answer key) := by
  rw [valueIn?_joined] at noValue
  rw [joined, joinedAfter, List.findSome?_map, List.findSome?_map, Option.none_or]
  change answers.findSome? (valueIn? ∘ (· key)) = none at noValue
  rw [noValue]
  change _ = answers.findSome? (failureIn? ∘ (· key))
  cases answers.findSome? (failureIn? ∘ (· key)) <;> rfl

theorem pends_joined (settled : ∀ answer ∈ answers, pends (answer key) = false) :
    pends (joined answers key) = false := by
  cases given : joined answers key with
  | ok value => rfl
  | error cause =>
    have failure : failureIn? (joined answers key) = some cause := by rw [given]; rfl
    rw [failureIn?_joined (by rw [given]; rfl)] at failure
    obtain ⟨answer, mem, failed⟩ := List.exists_of_findSome?_eq_some failure
    have known := settled answer mem
    rwa [failureIn?_eq_some_iff.mp failed] at known

end Joined

/-! ## Specs of a chain -/

def Program.asked (view : View) : Program α → List DataKey
  | done _ => []
  | fetch key next => key :: (next (view.outcome key)).asked view
  | compileRules spec value next => (next (view.rules spec value)).asked view
  | compileNames spec value next => (next (view.names spec value)).asked view

theorem View.outcome_ofAnswers (answer : DataKey → Outcome) :
    (View.ofAnswers answer).outcome = answer := rfl

section Specs

variable {answer : DataKey → Outcome} {basename : String}

theorem eval_resolveIn (settled : ∀ key, pends (answer key) = false) (last : Option DataError)
    (specs : List String) :
    (resolveIn basename last specs).eval (View.ofAnswers answer) =
      match specs.findSome? fun spec =>
        (valueIn? (answer ⟨basename, spec⟩)).map (Resolved.mk spec) with
      | some found => .ok (some found)
      | none => unfound ((specs.reverse.findSome? fun spec =>
          failureIn? (answer ⟨basename, spec⟩)).or last) := by
  induction specs generalizing last with
  | nil => cases last <;> rfl
  | cons spec specs ih =>
    have known := settled ⟨basename, spec⟩
    rw [resolveIn, Program.eval, List.findSome?_cons, List.reverse_cons, List.findSome?_append,
      View.outcome_ofAnswers]
    cases given : answer ⟨basename, spec⟩ with
    | ok value =>
      cases value with
      | some value => rfl
      | none => simpa [valueIn?, failureIn?, given] using ih last
    | error cause =>
      rw [given] at known
      have pending : cause.isPending = false := known
      simpa [valueIn?, failureIn?, given, pending, Option.or_assoc] using ih (some cause)

theorem asked_resolveIn_cons (settled : ∀ key, pends (answer key) = false)
    (last : Option DataError) {spec : String} {specs : List String} {keys : List DataKey}
    (missing : valueIn? (answer ⟨basename, spec⟩) = none)
    (later : ∀ last, (resolveIn basename last specs).asked (View.ofAnswers answer) = keys) :
    (resolveIn basename last (spec :: specs)).asked (View.ofAnswers answer) =
      ⟨basename, spec⟩ :: keys := by
  have known := settled ⟨basename, spec⟩
  rw [resolveIn, Program.asked, View.outcome_ofAnswers]
  cases given : answer ⟨basename, spec⟩ with
  | ok value =>
    rw [given] at missing
    obtain rfl : value = none := missing
    exact congrArg _ (later last)
  | error cause =>
    rw [given] at known
    have pending : cause.isPending = false := known
    simpa [pending] using later (some cause)

theorem asked_resolveIn_of_found (settled : ∀ key, pends (answer key) = false)
    (last : Option DataError) {specs : List String} {place : Nat} {spec : String} {value : Json}
    (here : specs[place]? = some spec) (found : answer ⟨basename, spec⟩ = .ok (some value))
    (before : ∀ earlier < place, ∀ other, specs[earlier]? = some other →
      valueIn? (answer ⟨basename, other⟩) = none) :
    (resolveIn basename last specs).asked (View.ofAnswers answer) =
      (specs.take (place + 1)).map (DataKey.mk basename) := by
  induction specs generalizing last place with
  | nil => cases here
  | cons first specs ih =>
    cases place with
    | zero =>
      cases here
      simp [resolveIn, Program.asked, View.ofAnswers, found]
    | succ place =>
      have missing := before 0 (Nat.zero_lt_succ place) first rfl
      have later := fun last => ih last here fun earlier lt =>
        before (earlier + 1) (Nat.succ_lt_succ lt)
      rw [List.take_succ_cons, List.map_cons]
      exact asked_resolveIn_cons settled last missing later

theorem asked_resolveIn_of_none (settled : ∀ key, pends (answer key) = false)
    (last : Option DataError) {specs : List String}
    (missing : ∀ spec ∈ specs, valueIn? (answer ⟨basename, spec⟩) = none) :
    (resolveIn basename last specs).asked (View.ofAnswers answer) =
      specs.map (DataKey.mk basename) := by
  induction specs generalizing last with
  | nil => rfl
  | cons spec specs ih =>
    exact asked_resolveIn_cons settled last (missing spec List.mem_cons_self) fun last =>
      ih last fun other mem => missing other (List.mem_cons_of_mem spec mem)

end Specs

/-! ## Choices -/

def GivenAt (answers : List (DataKey → Outcome)) (basename : String) (specs : List String)
    (place rank : Nat) (spec : String) (outcome : Outcome) : Prop :=
  specs[place]? = some spec ∧
    ∃ answer, answers[rank]? = some answer ∧ answer ⟨basename, spec⟩ = outcome

/-- What a search among specs in sources above one another comes to, and the specs that it asks
for. -/
inductive Chosen (answers : List (DataKey → Outcome)) (basename : String) (specs : List String) :
    Resolution → List String → Prop
  | found {place rank : Nat} {spec : String} {value : Json}
      (given : GivenAt answers basename specs place rank spec (.ok (some value)))
      (first : ∀ place' rank' spec' value',
        GivenAt answers basename specs place' rank' spec' (.ok (some value')) →
          place < place' ∨ place = place' ∧ rank ≤ rank') :
      Chosen answers basename specs (.ok (some ⟨spec, value⟩)) (specs.take (place + 1))
  | nothing
      (missing : ∀ place rank spec outcome,
        GivenAt answers basename specs place rank spec outcome → outcome = .ok none) :
      Chosen answers basename specs (.ok none) specs
  | failed {place rank : Nat} {spec : String} {cause : DataError}
      (missing : ∀ place rank spec value,
        ¬ GivenAt answers basename specs place rank spec (.ok (some value)))
      (given : GivenAt answers basename specs place rank spec (.error cause))
      (last : ∀ place' rank' spec' cause',
        GivenAt answers basename specs place' rank' spec' (.error cause') →
          place' < place ∨ place' = place ∧ rank ≤ rank') :
      Chosen answers basename specs (.error cause) specs

section Choices

variable {answers : List (DataKey → Outcome)} {basename : String} {specs : List String}

theorem valueIn?_joined_of_given {place rank : Nat} {spec : String} {value : Json}
    (given : GivenAt answers basename specs place rank spec (.ok (some value))) :
    valueIn? (joined answers ⟨basename, spec⟩) ≠ none := by
  obtain ⟨-, answer, there, here⟩ := given
  rw [valueIn?_joined, Ne, List.findSome?_eq_none_iff]
  intro missing
  have none := missing answer (List.mem_of_getElem? there)
  rw [here] at none
  cases none

theorem exists_givenAt {place : Nat} {spec : String} {β : Type} {test : Outcome → Option β} {hit : β}
    (here : specs[place]? = some spec)
    (found : (answers.findSome? fun answer => test (answer ⟨basename, spec⟩)) = some hit) :
    ∃ rank outcome, test outcome = some hit ∧ GivenAt answers basename specs place rank spec outcome ∧
      ∀ rank' spec' outcome', GivenAt answers basename specs place rank' spec' outcome' →
        (test outcome').isSome → rank ≤ rank' := by
  obtain ⟨rank, answer, there, hits, before⟩ := exists_getElem?_of_findSome? found
  refine ⟨rank, answer ⟨basename, spec⟩, hits, ⟨here, answer, there, rfl⟩, ?_⟩
  rintro rank' spec' outcome' ⟨here', answer', there', rfl⟩ hits'
  obtain rfl : spec = spec' := Option.some.inj (here.symm.trans here')
  by_contra earlier
  rw [before rank' (Nat.lt_of_not_le earlier) answer' there'] at hits'
  cases hits'

theorem not_given_of_missing
    (missing : ∀ spec ∈ specs, valueIn? (joined answers ⟨basename, spec⟩) = none)
    (place rank : Nat) (spec : String) (value : Json) :
    ¬ GivenAt answers basename specs place rank spec (.ok (some value)) :=
  fun given => valueIn?_joined_of_given given (missing spec (List.mem_of_getElem? given.1))

theorem chosen_of_found {found : Resolved Json}
    (hit : (specs.findSome? fun spec =>
      (valueIn? (joined answers ⟨basename, spec⟩)).map (Resolved.mk spec)) = some found)
    (settled : ∀ key, pends (joined answers key) = false) :
    ∃ asked, Chosen answers basename specs (.ok (some found)) asked ∧
      (resolveIn basename none specs).asked (View.ofAnswers (joined answers)) =
        asked.map (DataKey.mk basename) := by
  obtain ⟨place, spec, here, given, before⟩ := exists_getElem?_of_findSome? hit
  obtain ⟨value, data, rfl⟩ := Option.map_eq_some_iff.mp given
  simp only [Option.map_eq_none_iff] at before
  refine ⟨_, ?_, asked_resolveIn_of_found settled none here (valueIn?_eq_some_iff.mp data) before⟩
  rw [valueIn?_joined] at data
  obtain ⟨rank, outcome, is, given, least⟩ := exists_givenAt here data
  rw [valueIn?_eq_some_iff.mp is] at given
  refine .found given fun place' rank' spec' value' given' => ?_
  rcases Nat.lt_trichotomy place place' with after | rfl | earlier
  · exact .inl after
  · exact .inr ⟨rfl, least rank' spec' _ given' rfl⟩
  · exact absurd (before place' earlier spec' given'.1) (valueIn?_joined_of_given given')

theorem chosen_of_missing
    (missing : ∀ spec ∈ specs, valueIn? (joined answers ⟨basename, spec⟩) = none) :
    Chosen answers basename specs
      (unfound (specs.reverse.findSome? fun spec => failureIn? (joined answers ⟨basename, spec⟩)))
      specs := by
  have failures : ∀ spec ∈ specs, failureIn? (joined answers ⟨basename, spec⟩) =
      answers.findSome? fun answer => failureIn? (answer ⟨basename, spec⟩) :=
    fun spec mem => failureIn?_joined (missing spec mem)
  cases hit : specs.reverse.findSome? fun spec => failureIn? (joined answers ⟨basename, spec⟩) with
  | none =>
    refine .nothing ?_
    rintro place rank spec outcome ⟨here, answer, there, rfl⟩
    have mem := List.mem_of_getElem? here
    have noValue := missing spec mem
    rw [valueIn?_joined, List.findSome?_eq_none_iff] at noValue
    have noFailure := List.findSome?_eq_none_iff.mp hit spec (List.mem_reverse.mpr mem)
    rw [failures spec mem, List.findSome?_eq_none_iff] at noFailure
    exact eq_of_valueIn?_of_failureIn? (noValue answer (List.mem_of_getElem? there))
      (noFailure answer (List.mem_of_getElem? there))
  | some cause =>
    obtain ⟨place, spec, here, failure, after⟩ := exists_getElem?_of_findSome?_reverse hit
    -- Later failures at one spec do not count, but those at a later spec do.
    rw [failures spec (List.mem_of_getElem? here)] at failure
    obtain ⟨rank, outcome, is, given, least⟩ := exists_givenAt here failure
    rw [failureIn?_eq_some_iff.mp is] at given
    refine .failed (not_given_of_missing missing) given fun place' rank' spec' cause' given' => ?_
    rcases Nat.lt_trichotomy place' place with earlier | rfl | later
    · exact .inl earlier
    · exact .inr ⟨rfl, least rank' spec' _ given' rfl⟩
    · have noFailure := after place' later spec' given'.1
      rw [failures spec' (List.mem_of_getElem? given'.1), List.findSome?_eq_none_iff] at noFailure
      obtain ⟨-, answer, there, failed⟩ := given'
      have none := noFailure answer (List.mem_of_getElem? there)
      rw [failed] at none
      cases none

theorem chosen_resolveIn (answers : List (DataKey → Outcome)) (basename : String)
    (specs : List String) (settled : ∀ key, pends (joined answers key) = false) :
    let view := View.ofAnswers (joined answers)
    ∃ asked, Chosen answers basename specs ((resolveIn basename none specs).eval view) asked ∧
      (resolveIn basename none specs).asked view = asked.map (DataKey.mk basename) := by
  intro view
  rw [eval_resolveIn settled]
  cases hit : specs.findSome? fun spec =>
      (valueIn? (joined answers ⟨basename, spec⟩)).map (Resolved.mk spec) with
  | some found => exact chosen_of_found hit settled
  | none =>
    simp only [List.findSome?_eq_none_iff, Option.map_eq_none_iff] at hit
    rw [Option.or_none]
    exact ⟨specs, chosen_of_missing hit, asked_resolveIn_of_none settled none hit⟩

end Choices

/-! ## Runs -/

namespace Cache

def Keeps (cache : Cache) (answer : DataKey → Outcome) : Prop :=
  ∀ {key : DataKey} {slot : Slot}, cache.slot? key = some slot → slot = .settled (answer key)

def missing (cache : Cache) (keys : List DataKey) : List DataKey :=
  (keys.filter fun key => (cache.slot? key).isNone).eraseDups

structure Fetched (answer : DataKey → Outcome) (cache : Cache) (keys : List DataKey) (after : Cache) :
    Prop where
  kept : after.Keeps answer
  loaded : after.history.map (·.key) = cache.history.map (·.key) ++ cache.missing keys
  known : ∀ key, (after.slot? key).isNone = ((cache.slot? key).isNone && !keys.contains key)

variable {answer : DataKey → Outcome} {source : Source (StateM σ)} {cache middle after : Cache}
  {key : DataKey} {keys : List DataKey}

theorem Keeps.fetched_nil (kept : cache.Keeps answer) : cache.Fetched answer [] cache where
  kept := kept
  loaded := by simp [missing]
  known key := by simp

theorem Keeps.fetched_get (loads : ∀ key provider, ((source.load key).run provider).1 = answer key)
    (kept : cache.Keeps answer) (key : DataKey) (provider : σ) :
    let result := (cache.get source key).run provider
    result.1.1 = answer key ∧ cache.Fetched answer [key] result.1.2 := by
  have got := cache.get_got source key provider
  generalize (cache.get source key).run provider = result at got
  cases got with
  | settled outcome known =>
    refine ⟨Slot.settled.inj (kept known), kept, ?_, fun other => ?_⟩
    · simp [missing, known]
    · by_cases here : other = key
      · simp [here, known]
      · simp [here]
  | unfinished number after flying waits => cases kept flying
  | finished number outcome after flying arrives => cases kept flying
  | missing outcome after unknown loaded =>
    have given : outcome = answer key := by
      have load := loads key provider
      rwa [loaded] at load
    subst given
    refine ⟨rfl, ?_, ?_, fun other => ?_⟩
    · intro other slot there
      rw [slot?_settle] at there
      split at there
      · rename_i here
        rw [here]
        exact (Option.some.inj there).symm
      · exact kept there
    · simp [history_settle, record, Cache.missing, unknown, List.eraseDups_cons]
    · rw [slot?_settle]
      by_cases here : other = key
      · simp [here]
      · simp [here, Cache.slot?, record]

theorem Fetched.cons (first : cache.Fetched answer [key] middle)
    (later : middle.Fetched answer keys after) : cache.Fetched answer (key :: keys) after where
  kept := later.kept
  loaded := by
    have rest : middle.missing keys =
        (keys.filter fun other => !(other == key) && (cache.slot? other).isNone).eraseDups := by
      simp [missing, first.known, Bool.and_comm, Bool.beq_eq_decide_eq]
    rw [later.loaded, first.loaded, rest, List.append_assoc]
    congr 1
    -- The first dataset is known from then on, so the later ones do not load it again.
    cases here : (cache.slot? key).isNone with
    | true => simp [missing, here, List.eraseDups_cons, List.filter_filter]
    | false =>
      have same : (keys.filter fun other => !(other == key) && (cache.slot? other).isNone) =
          keys.filter fun other => (cache.slot? other).isNone :=
        List.filter_congr fun other _ => by
          by_cases is : other = key <;> simp [is, here]
      simp [missing, here, same]
  known other := by
    rw [later.known, first.known]
    simp [Bool.and_assoc]

end Cache

def Program.Runs (program : Program α) (source : Source (StateM σ)) (answer : DataKey → Outcome)
    (store : Store) (provider : σ) : Prop :=
  let result := (program.run source store).run provider
  result.1.1 = program.eval (View.ofAnswers answer) ∧
    store.cache.Fetched answer (program.asked (View.ofAnswers answer)) result.1.2.cache

section Runs

variable {source : Source (StateM σ)} {answer : DataKey → Outcome} {store : Store}

theorem Program.runs_fetch (loads : ∀ key provider, ((source.load key).run provider).1 = answer key)
    {key : DataKey} {next : Outcome → Program α} (kept : store.cache.Keeps answer) {provider : σ}
    (later : ∀ {cache : Cache} {after : σ}, cache.Keeps answer →
      (next (answer key)).Runs source answer { store with cache } after) :
    (fetch key next).Runs source answer store provider := by
  obtain ⟨same, fetched⟩ := kept.fetched_get loads key provider
  unfold Runs
  rw [run, StateT.run_bind, eval, asked, View.outcome_ofAnswers]
  generalize (store.cache.get source key).run provider = got at same fetched
  obtain ⟨⟨outcome, cache⟩, after⟩ := got
  obtain rfl : outcome = answer key := same
  obtain ⟨value, rest⟩ := later fetched.kept
  exact ⟨value, fetched.cons rest⟩

theorem runs_resolveIn (loads : ∀ key provider, ((source.load key).run provider).1 = answer key)
    (basename : String) (last : Option DataError) (specs : List String)
    (kept : store.cache.Keeps answer) (provider : σ) :
    (resolveIn basename last specs).Runs source answer store provider := by
  induction specs generalizing last store provider with
  | nil => exact ⟨rfl, kept.fetched_nil⟩
  | cons spec specs ih =>
    refine Program.runs_fetch loads kept fun {cache after} kept => ?_
    cases answer ⟨basename, spec⟩ with
    | ok value =>
      cases value with
      | some value => exact ⟨rfl, kept.fetched_nil⟩
      | none => exact ih last kept after
    | error cause =>
      dsimp only
      -- A failure of a load that still pends ends the search.
      split
      · exact ⟨rfl, kept.fetched_nil⟩
      · exact ih (some cause) kept after

end Runs

theorem Source.Offers.resolves_of_forall₂ {layers : List (Source (StateM σ))}
    {answers : List (DataKey → Outcome)} (offered : List.Forall₂ Source.Offers layers answers) :
    ∀ layer ∈ layers, layer.Resolves fun _ _ => True := by
  induction offered with
  | nil => exact nofun
  | cons offers _ ih => exact List.forall_mem_cons.mpr ⟨offers.resolves, ih⟩

/-- A search for a locale over sources above one another gives the data that stand first by their
places in the chain and among the sources, whatever has failed before; without data, nothing or the
first failure at the last spec at which a source failed. On a store that holds no dataset it loads
the specs that it has asked for, and those only. It does the same if it is polled to its end. -/
theorem resolve_chooses_first {layers : List (Source (StateM σ))}
    {answers : List (DataKey → Outcome)} (offered : List.Forall₂ Source.Offers layers answers)
    (settled : ∀ answer ∈ answers, ∀ key, pends (answer key) = false) (basename : String)
    (locale : Locale) {store : Store} (empty : store.cache.slots = []) (provider : σ) :
    let source := Source.layered layers
    let waiting := ((resolve basename locale).run source store).run (provider, [])
    let loads := fun store : Store => store.cache.history.map (·.key)
    ∃ asked, Chosen answers basename locale.chain waiting.1.1 asked ∧
      loads waiting.1.2 = loads store ++ (asked.map (DataKey.mk basename)).eraseDups ∧
      ∃ finish,
        (∀ other, Activity.Ends source
          (((resolve basename locale).advance source store).run (provider, [])) other ↔
            other = finish) ∧
        finish.1.1 = waiting.1.1 ∧ loads finish.1.2 = loads waiting.1.2 := by
  intro source waiting loads
  have unknown : ∀ key, store.cache.slot? key = none := fun key => by
    rw [Cache.slot?, empty, List.lookup_nil]
  have quiet : store.cache.Quiet := fun key number flying => by
    rw [unknown] at flying
    cases flying
  have kept : store.cache.Keeps (joined answers) := fun {key slot} known => by
    rw [unknown] at known
    cases known
  -- On what the sources hold together, the choice is known in closed form.
  obtain ⟨asked, chosen, asks⟩ := chosen_resolveIn answers basename locale.chain fun key =>
    pends_joined fun answer mem => settled answer mem key
  obtain ⟨same, fetched⟩ :=
    runs_resolveIn (load_layered offered) basename none locale.chain kept (provider, [])
  rw [asks] at fetched
  rw [← same] at chosen
  refine ⟨asked, chosen, fetched.loaded.trans ?_, ?_⟩
  · simp [Cache.missing, unknown, loads]
  -- A search that is polled comes to what waiting gives.
  · obtain ⟨finish, ends, value, -, history, -⟩ :=
      Source.modesAgree_of_resolves
        (Source.resolves_layered (Source.Offers.resolves_of_forall₂ offered))
        (.resolve basename locale) store quiet (provider, []) (provider, []) ⟨trivial, rfl⟩
    exact ⟨finish, ends, value, history⟩

theorem Source.offers_delayed (answers : DataKey → Outcome) : (delayed answers).Offers answers where
  load _ _ := rfl
  brings key due := by
    have arrives : (delayed answers).Brings key true (answers key) false := .arrives rfl
    cases due with
    | true => exact ⟨false, arrives⟩
    | false => exact ⟨false, .waits rfl arrives⟩

theorem resolve_chooses_first_past_failures :
    let failing : DataKey → Outcome := fun key => .error (.unreadable key.spec)
    let sparse : DataKey → Outcome := fun key => .ok (if key.spec = "de" then some .null else none)
    let source := Source.layered [Source.delayed failing, Source.delayed sparse]
    let locale := Locale.ofTag "de-DE"
    let waiting := ((resolve DataKey.address locale).run source {}).run (false, [])
    (∀ answer ∈ [failing, sparse], ∀ key, pends (answer key) = false) ∧
      (∃ asked, Chosen [failing, sparse] DataKey.address locale.chain waiting.1.1 asked) ∧
        waiting.1.1 = .ok (some ⟨"de", .null⟩) := by
  intro failing sparse source locale waiting
  have settled : ∀ answer ∈ [failing, sparse], ∀ key, pends (answer key) = false := by
    intro answer mem key
    rcases List.mem_pair.mp mem with rfl | rfl <;> rfl
  have offered : List.Forall₂ Source.Offers [Source.delayed failing, Source.delayed sparse]
      [failing, sparse] :=
    .cons (Source.offers_delayed failing) (.cons (Source.offers_delayed sparse) .nil)
  obtain ⟨asked, chosen, -⟩ := resolve_chooses_first offered settled DataKey.address locale
    (show (Store.cache {}).slots = [] from rfl) false
  exact ⟨settled, ⟨asked, chosen⟩, rfl⟩

end Postal
