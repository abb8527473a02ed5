import Postal.Dataset.Basic
import Postal.Files.Basic
import Postal.Files.Path
import Postal.Locale.Basic

namespace Postal

abbrev Layer (m : Type → Type) := DataKey → m Outcome

variable {m : Type → Type} [Monad m]

/-- Loads a dataset from the first of some sources that has it. Failures are passed over, but if no
source has the dataset, the first of them counts; `failure` is the first so far. -/
def loadFrom (failure : Option DataError) (key : DataKey) : List (Layer m) → m Outcome
  | [] => pure (match failure with
    | none => .ok none
    | some cause => .error cause)
  | layer :: layers => do
    match ← layer key with
    | .ok (some value) => return .ok (some value)
    | .ok none => loadFrom failure key layers
    | .error cause => loadFrom (failure.or (some cause)) key layers

def loadLayers (layers : List (Layer m)) : Layer m := fun key =>
  loadFrom none key layers

def specParts (spec : String) : List String :=
  (splitWhere (· == '-') spec.toList).map String.ofList

def datasetPath (root : String) (key : DataKey) : String :=
  let folder := if key.spec = Locale.rootSpec then root else joinPaths root (specParts key.spec)
  joinPath folder (key.basename ++ ".json")

def readDataset (key : DataKey) (text : String) : Outcome :=
  match Json.read text.toList with
  | .ok value => .ok (some value)
  | .error cause => .error (.malformed key (.notJson cause))

def loadFile (files : FileSystem m) (root : String) : Layer m := fun key => do
  let path := datasetPath root key
  match ← files.read path with
  | .ok text => return readDataset key text
  | .error .notFound => return .ok none
  | .error _ => return .error (.unreadable path)

end Postal
