import Postal.Dataset.Basic
import Postal.Text.Blank
import Postal.Unicode.Case
import Postal.Unicode.Decomposition

namespace Postal

open Unicode

structure NamedCode where
  name : String
  code : String
deriving DecidableEq, Repr, Inhabited

namespace NamedCode

/-- Whether a name comes before another in a table: longer names come first, names of one length in
increasing order. -/
def precedes (a b : NamedCode) : Bool :=
  if a.name.length = b.name.length then decide (a.name ≤ b.name)
  else decide (b.name.length < a.name.length)

end NamedCode

structure NameTable where
  entries : List NamedCode
deriving DecidableEq, Repr, Inhabited

namespace NameTable

def ofPairs (pairs : List NamedCode) : NameTable :=
  ⟨(pairs.filter (! ·.name.isEmpty)).mergeSort NamedCode.precedes⟩

def generatedKey : String := "generated"

def pairOfMember? : String × Json → Option NamedCode
  | (name, .string code) => if name = generatedKey then none else some ⟨name, code⟩
  | _ => none

def ofJson (spec : String) : Json → Except DataError NameTable
  | .object members => .ok (ofPairs (members.filterMap pairOfMember?))
  | _ => .error (.malformed ⟨DataKey.countryNames, spec⟩ .notObject)

def lookupKey (name : List Char) : List Char :=
  lowercaseText name

def codeFor? (table : NameTable) (name : String) : Option String :=
  let wanted := lookupKey (trim name.toList)
  (table.entries.find? fun entry => lookupKey entry.name.toList == wanted).map (·.code)

/-- Codes of groups of countries, and of no country at all. -/
def aggregateCodes : List String :=
  ["AQ", "EU", "EZ", "UN", "ZZ"]

def isChoice (code : String) : Bool :=
  ! code.toList.any Char.isDigit && ! aggregateCodes.contains code

def firstOfEachCode (seen : List String) : List NamedCode → List NamedCode
  | [] => []
  | entry :: entries =>
    if seen.contains entry.code then firstOfEachCode seen entries
    else entry :: firstOfEachCode (entry.code :: seen) entries

def sortKey (name : List Char) : List Char :=
  ((name.flatMap decompose).filter (! isMark ·)).flatMap lowercase

structure Place where
  key : String
  code : String
deriving DecidableEq

def place (entry : NamedCode) : Place :=
  ⟨String.ofList (sortKey entry.name.toList), entry.code⟩

def Place.precedes (a b : Place) : Bool :=
  if a.key = b.key then decide (a.code ≤ b.code) else decide (a.key < b.key)

/-- The longest name of every country that can be chosen, in the order of their places. -/
def choices (table : NameTable) : List NamedCode :=
  let longest := firstOfEachCode [] (table.entries.filter (isChoice ·.code))
  let placed := longest.map fun entry => (place entry, entry)
  (placed.mergeSort fun a b => a.1.precedes b.1).map (·.2)

end NameTable

end Postal
