import Postal.Builtin.Dataset
import Postal.Store.Program

namespace Postal

structure Resolved (α : Type) where
  spec : String
  value : α
deriving DecidableEq, Repr

abbrev Resolution := Except DataError (Option (Resolved Json))

/-- The first data under some specs. A dataset that is still loading ends the search; of other
errors `last` is the last one so far. -/
def resolveIn (basename : String) (last : Option DataError) : List String → Program Resolution
  | [] => .done (match last with
    | none => .ok none
    | some cause => .error cause)
  | spec :: specs => .fetch ⟨basename, spec⟩ fun
    | .ok (some value) => .done (.ok (some ⟨spec, value⟩))
    | .ok none => resolveIn basename last specs
    | .error cause =>
      if cause.isPending then .done (.error cause) else resolveIn basename (some cause) specs

def resolve (basename : String) (locale : Locale) : Program Resolution :=
  resolveIn basename none locale.chain

def rulesFrom : Resolution → Program Governing
  | .ok (some found) => .compileRules found.spec found.value .done
  | _ => .done .generic

def rulesForCode : Option String → Program Governing
  | none => .done .generic
  | some code => do
    rulesFrom (← resolve DataKey.address (Locale.ofRegion code))

def rulesForLocale (locale : Locale) : Program Governing := do
  rulesFrom (← resolve DataKey.address locale)

def namesFrom : Resolution → Program (Option (Resolved NameTable))
  | .ok (some found) =>
    .compileNames found.spec found.value fun table => .done (table.map (⟨found.spec, ·⟩))
  | _ => .done none

def countryNames (locale : Locale) : Program (Option (Resolved NameTable)) := do
  namesFrom (← resolve DataKey.countryNames locale)

/-- The tables of names in the order in which they are searched: localized names, native ones, and
English ones if they are not the localized ones again. -/
def arrangeTables (localized english : Option (Resolved NameTable)) : List NameTable :=
  let again := localized.isSome && localized.map (·.spec) == english.map (·.spec)
  (localized.map (·.value)).toList ++ [Builtin.nativeNames] ++
    (if again then [] else (english.map (·.value)).toList)

def countryTables (locale : Locale) : Program (List NameTable) := do
  let localized ← countryNames locale
  let english ← countryNames (Locale.ofTag "en")
  return arrangeTables localized english

end Postal
