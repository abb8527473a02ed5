import Postal.Json.Reader
import Postal.Pattern.Flags
import Postal.Ruleset.Data

namespace Postal

structure DataKey where
  basename : String
  spec : String
deriving DecidableEq, Repr, Inhabited

namespace DataKey

def address : String := "address"

def countryNames : String := "ctrynames"

def regionNames : String := "regionnames"

def addressLabels : String := "addressres"

end DataKey

inductive MalformedCause where
  | notJson (cause : JsonError)
  | shape (cause : ShapeError)
  | noFormats
  | notObject
  | reported (reason : String)
deriving Repr

inductive DataError where
  | unreadable (path : String)
  | malformed (key : DataKey) (cause : MalformedCause)
  | badPattern (component : Component) (cause : PatternError)
  | pending (key : DataKey)
deriving Repr

def DataError.isPending : DataError → Bool
  | pending _ => true
  | _ => false

def MalformedCause.message? : MalformedCause → Option String
  | notJson _ => none
  | shape cause => some cause.message
  | noFormats => some "ruleset has no formats"
  | notObject => some "expected an object"
  | reported reason => some reason

def DataError.message? : DataError → Option String
  | unreadable _ => none
  | malformed key cause =>
    cause.message?.map fun reason =>
      "malformed " ++ key.basename ++ " data for " ++ key.spec ++ ": " ++ reason
  | badPattern _ _ => none
  | pending key => some (key.basename ++ " data for " ++ key.spec ++ " is still loading")

/-- What loading a dataset gives: its value, nothing if there is none, or an error. -/
abbrev Outcome := Except DataError (Option Json)

end Postal
