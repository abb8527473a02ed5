import Postal.Country.Names
import Postal.Fragment.Script
import Postal.Fragment.Split

namespace Postal

open Unicode

def startsWith? : List Char → List Char → Option (List Char)
  | text, [] => some text
  | [], _ :: _ => none
  | c :: text, d :: name => if equalIgnoringCase c d then startsWith? text name else none

def endsWith? (text name : List Char) : Option (List Char) :=
  (startsWith? text.reverse name.reverse).map List.reverse

/-- Whether what follows a name continues a word: ideographs are not parted by spaces, so they do
not count. -/
def continuesWord : List Char → Bool
  | [] => false
  | c :: _ => isAlphanumeric c && ! isAsianCharacter c

def endsBlank (text : List Char) : Bool :=
  match text.getLast? with
  | none => true
  | some c => isWhitespace c

def leading? (fragment name : List Char) : Option (List Char) :=
  (startsWith? fragment name).filter (! continuesWord ·)

def trailing? (fragment name : List Char) : Option (List Char) :=
  (endsWith? fragment name).filter endsBlank

/-- The name of a country that was found at one end of some fragments. -/
structure Sighting where
  line : Nat
  start : Nat
  length : Nat
  code : String
deriving DecidableEq, Repr

namespace Sighting

def cutFrom (sighting : Sighting) (fragment : List Char) : List Char :=
  fragment.take sighting.start ++ fragment.drop (sighting.start + sighting.length)

def text (sighting : Sighting) (fragments : List (List Char)) : List Char :=
  ((fragments[sighting.line]?.getD []).drop sighting.start).take sighting.length

def cut (sighting : Sighting) (fragments : List (List Char)) : List (List Char) :=
  fragments.modify sighting.line sighting.cutFrom

end Sighting

/-- Where a name stands in some fragments: at the start of the first one, or else at the end of the
last one. -/
def sightingOf? (fragments : List (List Char)) (entry : NamedCode) : Option Sighting :=
  match fragments.head?, fragments.getLast? with
  | some first, some last =>
    let name := entry.name.toList
    match leading? first name with
    | some _ => some ⟨0, 0, name.length, entry.code⟩
    | none =>
      (trailing? last name).map fun before =>
        ⟨fragments.length - 1, before.length, name.length, entry.code⟩
  | _, _ => none

def NameTable.findIn? (table : NameTable) (fragments : List (List Char)) : Option Sighting :=
  table.entries.findSome? (sightingOf? fragments)

def findCountry (fragments : List (List Char)) (tables : List NameTable) : Option Sighting :=
  tables.findSome? (·.findIn? fragments)

end Postal
