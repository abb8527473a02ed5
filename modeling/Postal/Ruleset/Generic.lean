import Postal.Ruleset.Basic

namespace Postal

namespace Ruleset

def trailingWords : String :=
  "(?:[A-Za-zÀÁÈÉÌÍÑÒÓÙÚÜàáèéìíñòóùúü\\.\\-']+\\s*)\x7b1,2\x7d$"

def genericData : RulesetData where
  formats :=
    [("default", .uniform
        "\x7bstreetAddress\x7d\n\x7blocality\x7d \x7bregion\x7d \x7bpostalCode\x7d\n\x7bcountry\x7d"),
     ("nocountry", .uniform
        "\x7bstreetAddress\x7d\n\x7blocality\x7d \x7bregion\x7d \x7bpostalCode\x7d")]
  startAt := some (.uniform .finish)
  rules := some (.uniform
    [{ component := .postalCode, line := .backward, pattern := some (.regex "[0-9]+$") },
     { component := .region, line := .last, pattern := some (.regex trailingWords) },
     { component := .locality, line := .last, pattern := some (.regex trailingWords) }])
  labels := defaultLabels

def generic : Ruleset :=
  (compile Locale.rootSpec genericData).toOption.getD
    ⟨genericData.formats, .uniform .finish, .uniform [], defaultLabels, false, none⟩

end Ruleset

/-- The rules that govern an address: those of a territory, or the generic ones in place of data
that are missing or unusable. -/
inductive Governing where
  | generic
  | territory (ruleset : Ruleset)
deriving DecidableEq, Repr

namespace Governing

def ruleset : Governing → Ruleset
  | generic => .generic
  | territory ruleset => ruleset

def ofJson (spec : String) (value : Json) : Governing :=
  match Ruleset.ofJson spec value with
  | .ok ruleset => territory ruleset
  | .error _ => generic

def isGeneric : Governing → Bool
  | generic => true
  | territory _ => false

end Governing

end Postal
