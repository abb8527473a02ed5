import Postal.Unicode.Case
import Postal.Unicode.Property

namespace Postal

open Unicode

inductive CharClass where
  | none
  | range (first last : Char)
  | decimal
  | whitespace
  | word
  | property (property : Property)
  | union (a b : CharClass)
  | intersection (a b : CharClass)
  | difference (a b : CharClass)
  | symmetricDifference (a b : CharClass)
  | complement (a : CharClass)
  | folded (a : CharClass)
  | foldedAscii (a : CharClass)
deriving DecidableEq, Repr

namespace CharClass

def contains : CharClass → Char → Bool
  | none, _ => false
  | range first last, c => first ≤ c && c ≤ last
  | decimal, c => isDecimal c
  | whitespace, c => isWhitespace c
  | word, c => isWordCharacter c
  | property p, c => p.contains c
  | union a b, c => a.contains c || b.contains c
  | intersection a b, c => a.contains c && b.contains c
  | difference a b, c => a.contains c && ! b.contains c
  | symmetricDifference a b, c => a.contains c != b.contains c
  | complement a, c => ! a.contains c
  | folded a, c => (caseVariants c).any a.contains
  | foldedAscii a, c => (asciiCaseVariants c).any a.contains

def single (c : Char) : CharClass := range c c

def any : CharClass := complement none

def unionOf : List CharClass → CharClass
  | [] => none
  | [a] => a
  | a :: others => union a (unionOf others)

def ofQuery : PropertyQuery → CharClass
  | .any => any
  | .assigned =>
    match indexNamed? generalCategories (comparableName "Unassigned".toList) with
    | some index => complement (property (.category index))
    | Option.none => any
  | .ascii => range (Char.ofNat 0) (Char.ofNat 0x7F)
  | .property p => property p
  | .knownIn version => unionOf ((List.range (version + 1)).map fun v => property (.newIn v))

def table : CharClass → RangeTable
  | none => .empty
  | range first last => if first ≤ last then .ofRanges [(first.toNat, last.toNat)] else .empty
  | decimal => decimalTable
  | whitespace => whitespaceTable
  | word => wordTable
  | property p => p.table
  | union a b => .unionOf [a.table, b.table]
  | intersection a b => a.table.intersection b.table
  | difference a b => a.table.difference b.table
  | symmetricDifference a b => a.table.symmetricDifference b.table
  | complement a => a.table.complement
  | folded a => a.table.folded
  | foldedAscii a => a.table.foldedAscii

@[simp] theorem contains_none (c : Char) : none.contains c = false := rfl

@[simp] theorem contains_any (c : Char) : any.contains c = true := rfl

theorem contains_folded (a : CharClass) (c : Char) :
    a.folded.contains c = true ↔ ∃ variant ∈ caseVariants c, a.contains variant = true := by
  simp [contains]

end CharClass

end Postal
