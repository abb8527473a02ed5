import Postal.Unicode.Character
import Postal.Unicode.Lowercase
import Postal.Unicode.Folding

namespace Postal.Unicode

def lowercase (c : Char) : List Char :=
  if c.toNat < 0x80 then [c.toLower]
  else match lowercaseMap.find? c.toNat with
    | some image => image.map Char.ofNat
    | none => [c]

def equalIgnoringCase (a b : Char) : Bool :=
  a == b || lowercase a == lowercase b

def startsCased (text : List Char) : Bool :=
  match text.dropWhile isCaseIgnorable with
  | [] => false
  | c :: _ => isCased c

/-- The lowercase form of a text that follows `before`, which is given in reverse. A capital sigma
that ends a word becomes a final sigma. -/
def lowercaseAfter (before : List Char) : List Char → List Char
  | [] => []
  | c :: rest =>
    let form :=
      if c == 'Σ' then [if startsCased before && ! startsCased rest then 'ς' else 'σ']
      else lowercase c
    form ++ lowercaseAfter (c :: before) rest

def lowercaseText (text : List Char) : List Char :=
  lowercaseAfter [] text

/-- A character with all others of the same simple case folding. -/
def caseVariants (c : Char) : List Char :=
  if c.toNat < 0x80 then
    if c == 'k' || c == 'K' then ['k', 'K', Char.ofNat 0x212A]
    else if c == 's' || c == 'S' then ['s', 'S', Char.ofNat 0x17F]
    else if c.isLower then [c, c.toUpper]
    else if c.isUpper then [c, c.toLower]
    else [c]
  else match foldingMap.find? c.toNat with
    | some others => c :: others.map Char.ofNat
    | none => [c]

def asciiCaseVariants (c : Char) : List Char :=
  if c.isLower then [c, c.toUpper]
  else if c.isUpper then [c, c.toLower]
  else [c]

def asciiImages (variants : Char → List Char) (first last : Nat) : List (Nat × Nat) :=
  (List.range (min (last + 1) 0x80 - first)).flatMap fun offset =>
    (variants (Char.ofNat (first + offset))).map fun c => (c.toNat, c.toNat)

def RangeTable.folded (table : RangeTable) : RangeTable :=
  let ranges := table.ranges.toList
  .ofRanges (ranges ++ ranges.flatMap fun (first, last) =>
    asciiImages caseVariants first last ++
      (foldingMap.entriesBetween (max first 0x80) last).flatMap fun (_, others) =>
        others.map fun other => (other, other))

def RangeTable.foldedAscii (table : RangeTable) : RangeTable :=
  let ranges := table.ranges.toList
  .ofRanges (ranges ++ ranges.flatMap fun (first, last) =>
    asciiImages asciiCaseVariants first last)

end Postal.Unicode
