import Postal.Dataset.Basic

/-!
# Load-once cache

A cache asks a source for every dataset once and keeps the outcome, failures included. A load that
does not block is in flight until it finishes; whoever asks for the same dataset meanwhile joins the
flight. A blocking request never waits for a flight.
-/

namespace Postal

/-- Where datasets come from: `load` waits for a dataset, `advance` looks whether a load that has
been started is finished. -/
structure Source (m : Type → Type) where
  load : DataKey → m Outcome
  advance : DataKey → m (Option Outcome)

inductive Slot where
  | settled (outcome : Outcome)
  | loading (flight : Nat)

def Slot.isLoading : Slot → Bool
  | settled _ => false
  | loading _ => true

inductive LoadMode where
  | blocking
  | started
deriving DecidableEq, Repr

/-- A load that a source was asked for. It has an outcome once it is finished; until then it is in
flight. -/
structure Load where
  key : DataKey
  mode : LoadMode
  outcome : Option Outcome

structure Cache where
  slots : List (DataKey × Slot) := []
  history : List Load := []

inductive Ticket where
  | settled (outcome : Outcome)
  | flight (number : Nat)

namespace Cache

variable {m : Type → Type} [Monad m]

def slot? (cache : Cache) (key : DataKey) : Option Slot :=
  cache.slots.lookup key

def putSlot (key : DataKey) (slot : Slot) : List (DataKey × Slot) → List (DataKey × Slot)
  | [] => [(key, slot)]
  | (other, kept) :: slots =>
    if other = key then (key, slot) :: slots else (other, kept) :: putSlot key slot slots

def settle (cache : Cache) (key : DataKey) (outcome : Outcome) : Cache :=
  { cache with slots := putSlot key (.settled outcome) cache.slots }

def record (cache : Cache) (load : Load) : Cache :=
  { cache with history := cache.history ++ [load] }

def loadCount (cache : Cache) : Nat :=
  cache.history.length

def size (cache : Cache) : Nat :=
  cache.slots.length

def clear (cache : Cache) : Cache :=
  { cache with slots := [] }

def finish (cache : Cache) (number : Nat) (outcome : Outcome) : Cache :=
  { cache with history := cache.history.modify number ({ · with outcome := some outcome }) }

def pollFlight (source : Source m) (cache : Cache) (number : Nat) : m (Option Outcome × Cache) :=
  match cache.history[number]? with
  | none => pure (none, cache)
  | some ⟨_, _, some outcome⟩ => pure (some outcome, cache)
  | some ⟨key, _, none⟩ => do
    match ← source.advance key with
    | none => return (none, cache)
    | some outcome => return (some outcome, cache.finish number outcome)

/-- A blocking request. A dataset whose load is in flight and not finished is pending. -/
def get (source : Source m) (cache : Cache) (key : DataKey) : m (Outcome × Cache) :=
  match cache.slot? key with
  | some (.settled outcome) => pure (outcome, cache)
  | some (.loading number) => do
    match ← cache.pollFlight source number with
    | (some outcome, cache) => return (outcome, cache.settle key outcome)
    | (none, cache) => return (.error (.pending key), cache)
  | none => do
    let outcome ← source.load key
    return (outcome, (cache.record ⟨key, .blocking, some outcome⟩).settle key outcome)

def startFlight (cache : Cache) (key : DataKey) : Cache where
  slots := putSlot key (.loading cache.history.length) cache.slots
  history := cache.history ++ [⟨key, .started, none⟩]

/-- The first step of a request that does not block: the outcome if it is known, or else a flight,
which is started if there is none. -/
def request (cache : Cache) (key : DataKey) : Ticket × Cache :=
  match cache.slot? key with
  | some (.settled outcome) => (.settled outcome, cache)
  | some (.loading number) => (.flight number, cache)
  | none => (.flight cache.history.length, cache.startFlight key)

/-- The last step of a request that does not block: the outcome that its flight has brought is kept
if the dataset is still being loaded. -/
def land (cache : Cache) (key : DataKey) (outcome : Outcome) : Cache :=
  match cache.slot? key with
  | some (.loading _) => cache.settle key outcome
  | _ => cache

def await (source : Source m) (cache : Cache) (key : DataKey) (number : Nat) :
    m (Option Outcome × Cache) := do
  match ← cache.pollFlight source number with
  | (none, cache) => return (none, cache)
  | (some outcome, cache) => return (some outcome, cache.land key outcome)

end Cache

end Postal
