import Postal.Dataset.Layers
import Postal.Store.Cache

namespace Postal

/-- A load from several sources on its way: the first failure so far, and the sources that are left,
the first of which is being asked. -/
structure LayeredLoad (m : Type → Type) where
  failure : Option DataError
  layers : List (Source m)

def advanceFrom {m : Type → Type} [Monad m] (failure : Option DataError) (key : DataKey) :
    List (Source m) → m (LayeredLoad m ⊕ Outcome)
  | [] => pure (.inr (match failure with
    | none => .ok none
    | some cause => .error cause))
  | layer :: layers => do
    match ← layer.advance key with
    | none => return .inl ⟨failure, layer :: layers⟩
    | some (.ok (some value)) => return .inr (.ok (some value))
    | some (.ok none) => advanceFrom failure key layers
    | some (.error cause) => advanceFrom (failure.or (some cause)) key layers

def Source.layered {σ : Type} (layers : List (Source (StateM σ))) :
    Source (StateM (σ × List (DataKey × LayeredLoad (StateM σ)))) where
  load key := fun (provider, ongoing) =>
    let (outcome, provider) := (loadLayers (layers.map Source.load) key).run provider
    (outcome, provider, ongoing)
  advance key := fun (provider, ongoing) =>
    let load := (ongoing.lookup key).getD ⟨none, layers⟩
    let others := ongoing.filter (·.1 ≠ key)
    match (advanceFrom load.failure key load.layers).run provider with
    | (.inl load, provider) => (none, provider, (key, load) :: others)
    | (.inr outcome, provider) => (some outcome, provider, others)

end Postal
