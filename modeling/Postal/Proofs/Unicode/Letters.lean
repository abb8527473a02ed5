import Postal.Proofs.Unicode.Folding

namespace Postal.Unicode

def blankRanges : List (Nat × Nat) :=
  [(0x85, 0x85), (0xA0, 0xA0), (0x1680, 0x1680), (0x2000, 0x200A), (0x2028, 0x2029),
   (0x202F, 0x202F), (0x205F, 0x205F), (0x3000, 0x3000), (0xFF0C, 0xFF0C)]

theorem tableNamed_alphabetic : tableNamed binaryProperties "Alphabetic" = alphabetic := by
  have first : (NamedRanges.ofText "ASCII_Hex_Digit ahex | 30-39 41-46 61-66 ;").find?
      (·.names.contains "Alphabetic") = none := by
    decide +kernel
  rw [tableNamed, binaryProperties, List.find?_append, List.find?_append, first, Option.none_or,
    List.find?_cons_of_pos (by decide), Option.some_or]

theorem RangeTable.not_contains_of_apart {table : RangeTable} {ranges : List (Nat × Nat)} {code : Nat}
    (h : apart ranges table.ranges.toList = true) (within : Within ranges code) :
    table.contains code = false := by
  by_contra listed
  rw [Bool.not_eq_false] at listed
  obtain ⟨range, mem, holds⟩ := mem_of_contains listed
  exact not_within_of_apart h within ⟨range, Array.mem_toList_iff.mpr mem, holds⟩

theorem not_alphabetic_of_blank {code : Nat} (within : Within blankRanges code)
    (valid : code ≤ lastCodePoint) : alphabeticTable.contains code = false := by
  have ordered : OrderedFrom 0 alphabetic.ranges.toList ∧
      OrderedFrom 0 alphabeticChanges.ranges.toList := by
    decide +kernel
  have old : alphabetic.contains code = false :=
    RangeTable.not_contains_of_apart (by decide +kernel) within
  have new : alphabeticChanges.contains code = false :=
    RangeTable.not_contains_of_apart (by decide +kernel) within
  rw [alphabeticTable, tableNamed_alphabetic, RangeTable.contains_symmetricDifference
    ordered.1 ordered.2 valid, old, new]
  rfl

theorem isAlphabetic_of_isWhitespace {c : Char} (h : isWhitespace c = true) :
    isAlphabetic c = false := by
  simp [isWhitespace] at h
  rw [isAlphabetic]
  split
  · simp [Char.isAlpha, Char.isUpper, Char.isLower, UInt32.le_iff_toNat_le]
    omega
  · refine not_alphabetic_of_blank ?_ (toNat_le_lastCodePoint c)
    simp [Within, blankRanges]
    omega

theorem isAlphabetic_fullwidthComma : isAlphabetic '，' = false :=
  not_alphabetic_of_blank ⟨(0xFF0C, 0xFF0C), by decide, by decide, by decide⟩ (by decide)

end Postal.Unicode
