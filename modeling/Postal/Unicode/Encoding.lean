import Postal.Unicode.Ranges

namespace Postal.Unicode

abbrev ByteRange := Nat × Nat

structure EncodedBlock where
  first : Nat
  last : Nat
  continuations : Nat
  lead : Nat

def encodedBlocks : List EncodedBlock :=
  [⟨0, 0x7F, 0, 0⟩, ⟨0x80, 0x7FF, 1, 0xC0⟩, ⟨0x800, 0xD7FF, 2, 0xE0⟩, ⟨0xE000, 0xFFFF, 2, 0xE0⟩,
    ⟨0x10000, 0x10FFFF, 3, 0xF0⟩]

/-- The parts of a range of code points in which the last `level` groups of six bits vary
independently of the bits before them. -/
def independentParts : Nat → Nat → Nat → List (Nat × Nat)
  | 0, first, last => [(first, last)]
  | level + 1, first, last =>
    let size := Nat.pow 64 (level + 1)
    if first / size = last / size then independentParts level first last
    else
      let start := (first + size - 1) / size * size
      let stop := (last + 1) / size * size
      (if first < start then independentParts level first (start - 1) else []) ++
        (if start < stop then [(start, stop - 1)] else []) ++
        (if stop ≤ last then independentParts level stop last else [])

def EncodedBlock.bytesOfPart (block : EncodedBlock) (part : Nat × Nat) : List ByteRange :=
  let group (code level : Nat) : Nat := 0x80 + code / Nat.pow 64 level % 64
  let top (code : Nat) : Nat := block.lead + code / Nat.pow 64 block.continuations
  (top part.1, top part.2) ::
    (List.range block.continuations).reverse.map fun level =>
      (group part.1 level, group part.2 level)

def byteSequences (first last : Nat) : List (List ByteRange) :=
  encodedBlocks.flatMap fun block =>
    let first := max first block.first
    let last := min last block.last
    if first ≤ last then
      (independentParts block.continuations first last).map block.bytesOfPart
    else []

def utf8Bytes (code : Nat) : List Nat :=
  (byteSequences code code).flatMap (·.map (·.1))

example : utf8Bytes 0x20AC = [0xE2, 0x82, 0xAC] := by decide

example : byteSequences 0x400 0xFFF =
    [[(0xD0, 0xDF), (0x80, 0xBF)], [(0xE0, 0xE0), (0xA0, 0xBF), (0x80, 0xBF)]] := by decide

end Postal.Unicode
