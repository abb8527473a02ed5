import Mathlib
import Postal.Proofs.Unicode.Ranges
import Postal.Unicode.Case

namespace Postal.Unicode

def FoldingRun.spans : FoldingRun → List (Nat × Nat)
  | one code others => (code, code) :: others.map fun other => (other, other)
  | up first last distance => [(first, last), (first + distance, last + distance)]
  | down first last distance => [(first, last), (first - distance, last - distance)]
  | swapped first last => [(first, last)]

theorem mem_two {α : Type} {item first second : α} (h : item ∈ [first, second]) :
    item = first ∨ item = second := by
  simpa using h

theorem FoldingRun.within_spans (run : FoldingRun) :
    ∀ entry ∈ run.entries, ∀ code ∈ entry.1 :: entry.2, Within run.spans code := by
  cases run with
  | one key others =>
    intro entry mem code member
    obtain rfl := List.mem_singleton.mp mem
    refine ⟨(code, code), ?_, Nat.le_refl code, Nat.le_refl code⟩
    exact List.mem_map_of_mem (f := fun other => (other, other)) member
  | up first last distance =>
    intro entry mem code member
    obtain ⟨key, bounds, rfl⟩ := List.mem_map.mp mem
    rw [List.mem_range'_1] at bounds
    rcases mem_two member with rfl | rfl
    · exact ⟨_, List.mem_cons_self, bounds.1, by dsimp only; omega⟩
    · exact ⟨_, List.mem_cons_of_mem _ List.mem_cons_self, by dsimp only; omega, by dsimp only; omega⟩
  | down first last distance =>
    intro entry mem code member
    obtain ⟨key, bounds, rfl⟩ := List.mem_map.mp mem
    rw [List.mem_range'_1] at bounds
    rcases mem_two member with rfl | rfl
    · exact ⟨_, List.mem_cons_self, bounds.1, by dsimp only; omega⟩
    · exact ⟨_, List.mem_cons_of_mem _ List.mem_cons_self, by dsimp only; omega, by dsimp only; omega⟩
  | swapped first last =>
    intro entry mem code member
    obtain ⟨key, stepped, pair⟩ := List.mem_flatMap.mp mem
    obtain ⟨index, bound, rfl⟩ := List.mem_range'.mp stepped
    refine ⟨(first, last), List.mem_singleton_self _, ?_⟩
    dsimp only
    rcases mem_two pair with rfl | rfl <;> rcases mem_two member with rfl | rfl <;> omega

def apart (ranges others : List (Nat × Nat)) : Bool :=
  ranges.all fun range => others.all fun other =>
    Nat.blt range.2 other.1 || Nat.blt other.2 range.1

theorem not_within_of_apart {ranges others : List (Nat × Nat)} (h : apart ranges others = true)
    {code : Nat} (within : Within ranges code) : ¬ Within others code := by
  rintro ⟨other, mem', above', below'⟩
  obtain ⟨range, mem, above, below⟩ := within
  have separate := List.all_eq_true.mp (List.all_eq_true.mp h range mem) other mem'
  rw [Bool.or_eq_true, Nat.blt_eq, Nat.blt_eq] at separate
  omega

theorem mem_foldingMap {entry : Nat × List Nat} (h : entry ∈ foldingMap.entries) :
    ∃ run ∈ foldingRuns, entry ∈ run.entries := by
  rw [foldingMap, List.mem_toArray] at h
  exact List.mem_flatMap.mp h

theorem not_within_of_mem_foldingMap {ranges : List (Nat × Nat)}
    (h : foldingRuns.all (fun run => apart run.spans ranges) = true) {entry : Nat × List Nat}
    (mem : entry ∈ foldingMap.entries) : ∀ code ∈ entry.1 :: entry.2, ¬ Within ranges code := by
  intro code member
  obtain ⟨run, listed, within⟩ := mem_foldingMap mem
  exact not_within_of_apart (List.all_eq_true.mp h run listed)
    (run.within_spans entry within code member)

def commaOrDecimal : List (Nat × Nat) :=
  (0x2C, 0x2C) :: decimalNumber.ranges.toList

theorem foldingRuns_apart :
    foldingRuns.all (fun run => apart run.spans commaOrDecimal) = true := by
  decide +kernel

theorem toNat_of_isDigit {c : Char} (h : c.isDigit = true) : 0x30 ≤ c.toNat ∧ c.toNat ≤ 0x39 := by
  simpa [Char.isDigit, UInt32.le_iff_toNat_le] using h

theorem isDecimal_of_isDigit {c : Char} (h : c.isDigit = true) : isDecimal c = true := by
  have bounds := toNat_of_isDigit h
  rw [isDecimal, if_pos (by omega), h]

theorem isWordCharacter_of_isDigit {c : Char} (h : c.isDigit = true) : isWordCharacter c = true := by
  have bounds := toNat_of_isDigit h
  simp [isWordCharacter, show c.toNat < 0x80 by omega, Char.isAlphanum, h]

theorem isWhitespace_of_isDigit {c : Char} (h : c.isDigit = true) : isWhitespace c = false := by
  have bounds := toNat_of_isDigit h
  simp only [isWhitespace, Bool.or_eq_false_iff, Bool.and_eq_false_iff, decide_eq_false_iff_not,
    beq_eq_false_iff_ne]
  omega

theorem within_of_isDecimal {c : Char} (h : isDecimal c = true) :
    Within commaOrDecimal c.toNat := by
  unfold isDecimal at h
  split at h
  · exact ⟨(0x30, 0x39), List.mem_cons_of_mem _ List.mem_cons_self, toNat_of_isDigit h⟩
  · obtain ⟨range, mem, within⟩ := RangeTable.mem_of_contains h
    exact ⟨range, List.mem_cons_of_mem _ (Array.mem_toList_iff.mpr mem), within⟩

theorem within_comma : Within commaOrDecimal ','.toNat :=
  ⟨(0x2C, 0x2C), List.mem_cons_self, by decide, by decide⟩

theorem not_within_zero : ¬ Within commaOrDecimal 0 := by
  have separate : apart [(0, 0)] commaOrDecimal = true := by decide +kernel
  exact not_within_of_apart separate ⟨_, List.mem_cons_self, Nat.le_refl 0, Nat.le_refl 0⟩

theorem caseVariants_ascii_apart :
    ((List.range 0x80).all fun code => (caseVariants (Char.ofNat code)).all fun variant =>
      variant == Char.ofNat code || apart [(variant.toNat, variant.toNat)] commaOrDecimal) =
        true := by
  decide +kernel

theorem self_mem_caseVariants (c : Char) : c ∈ caseVariants c := by
  rw [caseVariants]
  split
  · split
    · rename_i letter
      simp only [Bool.or_eq_true, beq_iff_eq] at letter
      rcases letter with rfl | rfl <;> simp
    · split
      · rename_i letter
        simp only [Bool.or_eq_true, beq_iff_eq] at letter
        rcases letter with rfl | rfl <;> simp
      · split
        · exact List.mem_cons_self
        · split <;> exact List.mem_cons_self
  · split <;> exact List.mem_cons_self

theorem eq_of_mem_caseVariants {c variant : Char} (mem : variant ∈ caseVariants c)
    (within : Within commaOrDecimal variant.toNat) : variant = c := by
  by_cases ascii : c.toNat < 0x80
  · have checked := List.all_eq_true.mp caseVariants_ascii_apart c.toNat (List.mem_range.mpr ascii)
    rw [Char.ofNat_toNat] at checked
    have settled := List.all_eq_true.mp checked variant mem
    rw [Bool.or_eq_true, beq_iff_eq] at settled
    rcases settled with same | separate
    · exact same
    · have here : Within [(variant.toNat, variant.toNat)] variant.toNat :=
        ⟨_, List.mem_cons_self, Nat.le_refl _, Nat.le_refl _⟩
      exact absurd within (not_within_of_apart separate here)
  · rw [caseVariants, if_neg ascii] at mem
    split at mem
    · rename_i others found
      rcases List.mem_cons.mp mem with same | mem
      · exact same
      · obtain ⟨other, listed, rfl⟩ := List.mem_map.mp mem
        have separate := not_within_of_mem_foldingMap foldingRuns_apart
          (CodeMap.mem_of_findBetween? found) other (List.mem_cons_of_mem _ listed)
        rcases toNat_ofNat other with same | zero
        · rw [same] at within
          exact absurd within separate
        · rw [zero] at within
          exact absurd within not_within_zero
    · exact List.mem_singleton.mp mem

theorem RangeTable.folded_eq {table : RangeTable}
    (h : ∀ range ∈ table.ranges.toList, range ∈ commaOrDecimal) :
    table.folded = .ofRanges (table.ranges.toList ++
      table.ranges.toList.flatMap fun range => asciiImages caseVariants range.1 range.2) := by
  unfold folded
  dsimp only
  congr 2
  refine List.flatMap_congr ?_
  intro range mem
  have nothing : foldingMap.entriesBetween (max range.1 0x80) range.2 = [] := by
    apply CodeMap.entriesBetween_eq_nil
    intro entry listed between
    have separate := not_within_of_mem_foldingMap foldingRuns_apart listed entry.1
      List.mem_cons_self
    exact separate ⟨range, h range mem, by omega, between.2⟩
  rw [nothing, List.flatMap_nil, List.append_nil]

end Postal.Unicode
