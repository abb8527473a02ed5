import Postal.Text.Split
import Postal.Text.Digit

namespace Postal.Unicode

/-- A set of code points: disjoint closed ranges in increasing order. -/
structure RangeTable where
  ranges : Array (Nat × Nat)
deriving DecidableEq, Repr, Inhabited

def RangeTable.containsBetween (table : RangeTable) (code low high : Nat) : Bool :=
  if low < high then
    let middle := (low + high) / 2
    match table.ranges[middle]? with
    | none => false
    | some (first, last) =>
      if code < first then table.containsBetween code low middle
      else if last < code then table.containsBetween code (middle + 1) high
      else true
  else false
termination_by high - low

def RangeTable.contains (table : RangeTable) (code : Nat) : Bool :=
  table.containsBetween code 0 table.ranges.size

def joinRanges : List (Nat × Nat) → List (Nat × Nat)
  | [] => []
  | [range] => [range]
  | (first, last) :: (next, stop) :: rest =>
    if next ≤ last + 1 then joinRanges ((first, max last stop) :: rest)
    else (first, last) :: joinRanges ((next, stop) :: rest)
termination_by ranges => ranges.length

def lastCodePoint : Nat := 0x10FFFF

def gapsFrom (next : Nat) : List (Nat × Nat) → List (Nat × Nat)
  | [] => if next ≤ lastCodePoint then [(next, lastCodePoint)] else []
  | (first, last) :: rest =>
    if next < first then (next, first - 1) :: gapsFrom (last + 1) rest
    else gapsFrom (last + 1) rest

namespace RangeTable

def empty : RangeTable := ⟨#[]⟩

def ofRanges (ranges : List (Nat × Nat)) : RangeTable :=
  ⟨(joinRanges (ranges.mergeSort fun a b => decide (a.1 ≤ b.1))).toArray⟩

def unionOf (tables : List RangeTable) : RangeTable :=
  ofRanges (tables.flatMap (·.ranges.toList))

def complement (table : RangeTable) : RangeTable :=
  ⟨(gapsFrom 0 table.ranges.toList).toArray⟩

def intersection (a b : RangeTable) : RangeTable :=
  (unionOf [a.complement, b.complement]).complement

def difference (a b : RangeTable) : RangeTable :=
  (unionOf [a.complement, b]).complement

def symmetricDifference (a b : RangeTable) : RangeTable :=
  (unionOf [a, b]).difference (a.intersection b)

end RangeTable

def wordsOf (text : List Char) : List (List Char) :=
  (splitWhere (fun c => c == ' ' || c == '\n') text).filter (! ·.isEmpty)

def rangeOfWord (word : List Char) : Nat × Nat :=
  match splitWhere (· == '-') word with
  | [first, last] => (hexNumber first, hexNumber last)
  | _ => (hexNumber word, hexNumber word)

def RangeTable.ofText (text : String) : RangeTable :=
  ⟨((wordsOf text.toList).map rangeOfWord).toArray⟩

structure NamedRanges where
  names : List String
  table : RangeTable
deriving Inhabited

def NamedRanges.ofWords (words : List (List Char)) : NamedRanges where
  names := (words.takeWhile (· != ['|'])).map String.ofList
  table := ⟨(((words.dropWhile (· != ['|'])).drop 1).map rangeOfWord).toArray⟩

def NamedRanges.ofText (text : String) : List NamedRanges :=
  ((splitWhere (· == [';']) (wordsOf text.toList)).filter (! ·.isEmpty)).map NamedRanges.ofWords

def tableNamed (entries : List NamedRanges) (name : String) : RangeTable :=
  match entries.find? (·.names.contains name) with
  | some entry => entry.table
  | none => .empty

structure CodeMap where
  entries : Array (Nat × List Nat)
deriving Inhabited

def CodeMap.findBetween? (map : CodeMap) (code low high : Nat) : Option (List Nat) :=
  if low < high then
    let middle := (low + high) / 2
    match map.entries[middle]? with
    | none => none
    | some (key, image) =>
      if code < key then map.findBetween? code low middle
      else if key < code then map.findBetween? code (middle + 1) high
      else some image
  else none
termination_by high - low

def CodeMap.find? (map : CodeMap) (code : Nat) : Option (List Nat) :=
  map.findBetween? code 0 map.entries.size

def CodeMap.lowerBound (map : CodeMap) (code low high : Nat) : Nat :=
  if low < high then
    let middle := (low + high) / 2
    match map.entries[middle]? with
    | none => high
    | some (key, _) =>
      if key < code then map.lowerBound code (middle + 1) high
      else map.lowerBound code low middle
  else low
termination_by high - low

def CodeMap.entriesFrom (map : CodeMap) (last index : Nat) : List (Nat × List Nat) :=
  match h : map.entries[index]? with
  | none => []
  | some entry => if entry.1 ≤ last then entry :: map.entriesFrom last (index + 1) else []
termination_by map.entries.size - index
decreasing_by
  have := (Array.getElem?_eq_some_iff.1 h).1
  omega

def CodeMap.entriesBetween (map : CodeMap) (first last : Nat) : List (Nat × List Nat) :=
  map.entriesFrom last (map.lowerBound first 0 map.entries.size)

def CodeMap.ofText (text : String) : CodeMap :=
  let entries := (splitWhere (· == ';') text.toList).filterMap fun entry =>
    match (wordsOf entry).map hexNumber with
    | key :: image => some (key, image)
    | [] => none
  ⟨entries.toArray⟩

end Postal.Unicode
