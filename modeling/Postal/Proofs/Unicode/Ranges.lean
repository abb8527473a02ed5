import Mathlib.Data.List.Basic
import Postal.Unicode.Ranges

namespace Postal.Unicode

variable {ranges : List (Nat × Nat)} {code : Nat}

def Within (ranges : List (Nat × Nat)) (code : Nat) : Prop :=
  ∃ range ∈ ranges, range.1 ≤ code ∧ code ≤ range.2

theorem within_cons {range : Nat × Nat} :
    Within (range :: ranges) code ↔ (range.1 ≤ code ∧ code ≤ range.2) ∨ Within ranges code := by
  simp [Within]

def Sorted (ranges : List (Nat × Nat)) : Prop :=
  ranges.Pairwise fun a b => a.1 ≤ b.1

def Filled (ranges : List (Nat × Nat)) : Prop :=
  ∀ range ∈ ranges, range.1 ≤ range.2

/-- Ranges with members, apart from one another and in increasing order from `next` on. -/
def OrderedFrom (next : Nat) : List (Nat × Nat) → Prop
  | [] => True
  | (first, last) :: rest => next ≤ first ∧ first ≤ last ∧ OrderedFrom (last + 1) rest

/-! ## Ordered ranges -/

namespace OrderedFrom

variable {next : Nat}

instance decidable (next : Nat) : (ranges : List (Nat × Nat)) → Decidable (OrderedFrom next ranges)
  | [] => .isTrue trivial
  | (first, last) :: rest =>
    have := decidable (last + 1) rest
    inferInstanceAs (Decidable (next ≤ first ∧ first ≤ last ∧ OrderedFrom (last + 1) rest))

theorem mono (ordered : OrderedFrom next ranges) {earlier : Nat} (h : earlier ≤ next) :
    OrderedFrom earlier ranges := by
  cases ranges with
  | nil => trivial
  | cons range rest => exact ⟨Nat.le_trans h ordered.1, ordered.2⟩

theorem filled (ordered : OrderedFrom next ranges) : Filled ranges := by
  induction ranges generalizing next with
  | nil => exact nofun
  | cons range rest ih => exact List.forall_mem_cons.mpr ⟨ordered.2.1, ih ordered.2.2⟩

theorem le_first (ordered : OrderedFrom next ranges) : ∀ range ∈ ranges, next ≤ range.1 := by
  induction ranges generalizing next with
  | nil => exact nofun
  | cons range rest ih =>
    obtain ⟨first, last⟩ := range
    obtain ⟨above, filled, later⟩ := ordered
    refine List.forall_mem_cons.mpr ⟨above, fun other mem => ?_⟩
    have beyond := ih later other mem
    omega

theorem pairwise (ordered : OrderedFrom next ranges) : ranges.Pairwise fun a b => a.2 < b.1 := by
  induction ranges generalizing next with
  | nil => exact .nil
  | cons range rest ih =>
    exact List.pairwise_cons.mpr ⟨ordered.2.2.le_first, ih ordered.2.2⟩

theorem le_of_within (ordered : OrderedFrom next ranges) (within : Within ranges code) :
    next ≤ code := by
  obtain ⟨range, mem, bounds⟩ := within
  exact Nat.le_trans (ordered.le_first range mem) bounds.1

end OrderedFrom

/-! ## Joining ranges -/

theorem Sorted.merge {first last next stop : Nat} {rest : List (Nat × Nat)}
    (sorted : Sorted ((first, last) :: (next, stop) :: rest)) (end' : Nat) :
    Sorted ((first, end') :: rest) := by
  obtain ⟨before, sorted⟩ := List.pairwise_cons.mp sorted
  exact List.pairwise_cons.mpr
    ⟨fun range mem => before range (List.mem_cons_of_mem _ mem), (List.pairwise_cons.mp sorted).2⟩

theorem within_joinRanges (sorted : Sorted ranges) :
    Within (joinRanges ranges) code ↔ Within ranges code := by
  fun_induction joinRanges ranges with
  | case1 => rfl
  | case2 range => rfl
  | case3 first last next stop rest near ih =>
    have ordered : first ≤ next := (List.pairwise_cons.mp sorted).1 _ List.mem_cons_self
    rw [ih (sorted.merge _), within_cons, within_cons, within_cons, ← or_assoc]
    refine or_congr_left ?_
    dsimp only
    omega
  | case4 first last next stop rest far ih =>
    rw [within_cons, ih (List.pairwise_cons.mp sorted).2, ← within_cons]

theorem orderedFrom_joinRanges (sorted : Sorted ranges) (filled : Filled ranges) {next : Nat}
    (above : ∀ range ∈ ranges, next ≤ range.1) : OrderedFrom next (joinRanges ranges) := by
  fun_induction joinRanges ranges generalizing next with
  | case1 => trivial
  | case2 range =>
    exact ⟨above range List.mem_cons_self, filled range List.mem_cons_self, trivial⟩
  | case3 first last middle stop rest near ih =>
    obtain ⟨here, later⟩ := List.forall_mem_cons.mp filled
    obtain ⟨-, rest⟩ := List.forall_mem_cons.mp later
    have merged : first ≤ max last stop := Nat.le_trans here (Nat.le_max_left last stop)
    refine ih (sorted.merge _) (List.forall_mem_cons.mpr ⟨merged, rest⟩) ?_
    exact List.forall_mem_cons.mpr ⟨above (first, last) List.mem_cons_self, fun range mem =>
      above range (List.mem_cons_of_mem _ (List.mem_cons_of_mem _ mem))⟩
  | case4 first last middle stop rest far ih =>
    obtain ⟨-, sorted⟩ := List.pairwise_cons.mp sorted
    obtain ⟨here, later⟩ := List.forall_mem_cons.mp filled
    have beyond : last + 1 ≤ middle := by omega
    refine ⟨above _ List.mem_cons_self, here, ih sorted later ?_⟩
    exact List.forall_mem_cons.mpr ⟨beyond, fun range mem =>
      Nat.le_trans beyond ((List.pairwise_cons.mp sorted).1 range mem)⟩

/-! ## Gaps between ranges -/

theorem orderedFrom_gapsFrom {next : Nat} (ordered : OrderedFrom next ranges) :
    OrderedFrom next (gapsFrom next ranges) := by
  induction ranges generalizing next with
  | nil =>
    rw [gapsFrom]
    split
    · rename_i room
      exact ⟨Nat.le_refl next, room, trivial⟩
    · trivial
  | cons range rest ih =>
    obtain ⟨first, last⟩ := range
    obtain ⟨above, filled, later⟩ := ordered
    rw [gapsFrom]
    split
    · rename_i room
      exact ⟨Nat.le_refl next, Nat.le_sub_one_of_lt room, (ih later).mono (by omega)⟩
    · exact (ih later).mono (by omega)

theorem within_gapsFrom {next : Nat} (ordered : OrderedFrom next ranges) (valid : code ≤ lastCodePoint) :
    Within (gapsFrom next ranges) code ↔ next ≤ code ∧ ¬ Within ranges code := by
  induction ranges generalizing next with
  | nil =>
    rw [gapsFrom]
    split
    · simp [Within, valid]
    · simp [Within]
      omega
  | cons range rest ih =>
    obtain ⟨first, last⟩ := range
    obtain ⟨above, filled, later⟩ := ordered
    rw [gapsFrom, within_cons, not_or]
    by_cases beyond : Within rest code
    · have past := later.le_of_within beyond
      split
      · simp [within_cons, ih later, beyond]
        omega
      · simp [ih later, beyond]
    · split
      · simp [within_cons, ih later, beyond]
        omega
      · simp [ih later, beyond]
        omega

namespace RangeTable

/-! ## Bisection -/

section Bisection

variable {table : RangeTable} {low high : Nat}

theorem mem_of_containsBetween (h : table.containsBetween code low high = true) :
    ∃ range ∈ table.ranges, range.1 ≤ code ∧ code ≤ range.2 := by
  fun_induction table.containsBetween code low high with
  | case1 low high below middle missing => cases h
  | case2 low high below middle first last there before ih => exact ih h
  | case3 low high below middle first last there reached beyond ih => exact ih h
  | case4 low high below middle first last there reached within =>
    exact ⟨(first, last), Array.mem_of_getElem? there, by omega, by omega⟩
  | case5 low high done => cases h

theorem mem_of_contains (h : table.contains code = true) :
    ∃ range ∈ table.ranges, range.1 ≤ code ∧ code ≤ range.2 :=
  mem_of_containsBetween h

theorem containsBetween_of_getElem? {next : Nat} (ordered : OrderedFrom next table.ranges.toList)
    {index : Nat} {range : Nat × Nat} (there : table.ranges[index]? = some range)
    (holds : range.1 ≤ code ∧ code ≤ range.2) (after : low ≤ index) (before : index < high)
    (bounded : high ≤ table.ranges.size) : table.containsBetween code low high = true := by
  have apart : ∀ {i j : Nat} {a b : Nat × Nat}, i < j → table.ranges[i]? = some a →
      table.ranges[j]? = some b → a.2 < b.1 := by
    intro i j a b less first second
    obtain ⟨bound, rfl⟩ := Array.getElem?_eq_some_iff.mp first
    obtain ⟨bound', rfl⟩ := Array.getElem?_eq_some_iff.mp second
    exact List.pairwise_iff_getElem.mp ordered.pairwise i j bound bound' less
  fun_induction table.containsBetween code low high with
  | case1 low high below middle missing =>
    rw [Array.getElem?_eq_none_iff] at missing
    omega
  | case2 low high below middle first last there' less ih =>
    refine ih after ?_ (by omega)
    have filled : first ≤ last :=
      ordered.filled _ (Array.mem_toList_iff.mpr (Array.mem_of_getElem? there'))
    rcases Nat.lt_trichotomy index middle with earlier | rfl | later
    · exact earlier
    · rw [there] at there'
      cases there'
      omega
    · have beyond : last < range.1 := apart later there' there
      omega
  | case3 low high below middle first last there' reached more ih =>
    refine ih ?_ before bounded
    rcases Nat.lt_trichotomy index middle with earlier | rfl | later
    · have beyond : range.2 < first := apart earlier there there'
      omega
    · rw [there] at there'
      cases there'
      omega
    · exact later
  | case4 low high below middle first last there' reached within => rfl
  | case5 low high done => omega

theorem contains_iff {next : Nat} (ordered : OrderedFrom next table.ranges.toList) :
    table.contains code = true ↔ Within table.ranges.toList code := by
  constructor
  · intro h
    obtain ⟨range, mem, holds⟩ := mem_of_contains h
    exact ⟨range, Array.mem_toList_iff.mpr mem, holds⟩
  · rintro ⟨range, mem, holds⟩
    obtain ⟨index, there⟩ := Array.mem_iff_getElem?.mp (Array.mem_toList_iff.mp mem)
    obtain ⟨bound, -⟩ := Array.getElem?_eq_some_iff.mp there
    exact containsBetween_of_getElem? ordered there holds (Nat.zero_le index) bound (Nat.le_refl _)

end Bisection

/-! ## Operations -/

theorem sorted_mergeSort (ranges : List (Nat × Nat)) :
    Sorted (ranges.mergeSort fun a b => decide (a.1 ≤ b.1)) := by
  have sorted : (ranges.mergeSort fun a b => decide (a.1 ≤ b.1)).Pairwise fun a b =>
      decide (a.1 ≤ b.1) = true :=
    List.pairwise_mergeSort (fun a b c => by simp; omega) (fun a b => by simp; omega) ranges
  simpa [Sorted] using sorted

theorem within_unionOf (a b : RangeTable) : Within (unionOf [a, b]).ranges.toList code ↔
    Within a.ranges.toList code ∨ Within b.ranges.toList code := by
  rw [unionOf, ofRanges, within_joinRanges (sorted_mergeSort _)]
  simp [Within, List.mem_mergeSort, or_and_right, exists_or]

theorem orderedFrom_unionOf {a b : RangeTable} (filled : Filled a.ranges.toList)
    (filled' : Filled b.ranges.toList) : OrderedFrom 0 (unionOf [a, b]).ranges.toList := by
  refine orderedFrom_joinRanges (sorted_mergeSort _) ?_ fun _ _ => Nat.zero_le _
  intro range mem
  simp only [List.mem_mergeSort, List.flatMap_cons, List.flatMap_nil, List.append_nil,
    List.mem_append] at mem
  exact mem.elim (filled range) (filled' range)

theorem within_complement {table : RangeTable} (ordered : OrderedFrom 0 table.ranges.toList)
    (valid : code ≤ lastCodePoint) :
    Within table.complement.ranges.toList code ↔ ¬ Within table.ranges.toList code := by
  rw [complement, within_gapsFrom ordered valid]
  simp

theorem orderedFrom_complement {table : RangeTable} (ordered : OrderedFrom 0 table.ranges.toList) :
    OrderedFrom 0 table.complement.ranges.toList :=
  orderedFrom_gapsFrom ordered

theorem contains_symmetricDifference {a b : RangeTable} (ordered : OrderedFrom 0 a.ranges.toList)
    (ordered' : OrderedFrom 0 b.ranges.toList) (valid : code ≤ lastCodePoint) :
    (a.symmetricDifference b).contains code = (a.contains code != b.contains code) := by
  have outsideA := orderedFrom_complement ordered
  have outsideB := orderedFrom_complement ordered'
  have union := orderedFrom_unionOf ordered.filled ordered'.filled
  have missing := orderedFrom_unionOf outsideA.filled outsideB.filled
  have outer := orderedFrom_unionOf (orderedFrom_complement union).filled
    (orderedFrom_complement missing).filled
  have exactlyOne : (a.symmetricDifference b).contains code = true ↔
      (a.contains code = true ∨ b.contains code = true) ∧
        (¬ a.contains code = true ∨ ¬ b.contains code = true) := by
    rw [symmetricDifference, difference, intersection, contains_iff (orderedFrom_complement outer),
      contains_iff ordered, contains_iff ordered', within_complement outer valid, within_unionOf,
      within_complement union valid, within_complement missing valid, within_unionOf, within_unionOf,
      within_complement ordered valid, within_complement ordered' valid, not_or, not_not, not_not]
  rw [Bool.eq_iff_iff, exactlyOne]
  cases a.contains code <;> cases b.contains code <;> decide

end RangeTable

/-! ## Maps -/

namespace CodeMap

variable {map : CodeMap} {code low high : Nat}

theorem mem_of_findBetween? {image : List Nat} (h : map.findBetween? code low high = some image) :
    (code, image) ∈ map.entries := by
  fun_induction map.findBetween? code low high with
  | case1 low high below middle missing => cases h
  | case2 low high below middle key other there before ih => exact ih h
  | case3 low high below middle key other there reached beyond ih => exact ih h
  | case4 low high below middle key other there reached within =>
    cases h
    obtain rfl : key = code := by omega
    exact Array.mem_of_getElem? there
  | case5 low high done => cases h

theorem lowerBound_reaches (ordered : low ≤ high) :
    map.lowerBound code low high = high ∨
      ∀ entry, map.entries[map.lowerBound code low high]? = some entry → code ≤ entry.1 := by
  fun_induction map.lowerBound code low high with
  | case1 low high below middle missing => exact .inl rfl
  | case2 low high below middle key other there small ih => exact ih (by omega)
  | case3 low high below middle key other there large ih =>
    rcases ih (by omega) with atMiddle | reached
    · refine .inr fun entry found => ?_
      rw [atMiddle, there] at found
      cases found
      omega
    · exact .inr reached
  | case4 low high done => exact .inl (by omega)

theorem entriesBetween_eq_nil {first last : Nat}
    (apart : ∀ entry ∈ map.entries, ¬ (first ≤ entry.1 ∧ entry.1 ≤ last)) :
    map.entriesBetween first last = [] := by
  rw [entriesBetween, entriesFrom]
  split
  · rfl
  · rename_i entry found
    have start : map.lowerBound first 0 map.entries.size = map.entries.size ∨
        ∀ entry, map.entries[map.lowerBound first 0 map.entries.size]? = some entry →
          first ≤ entry.1 :=
      lowerBound_reaches (Nat.zero_le _)
    have reached : first ≤ entry.1 := by
      rcases start with atEnd | reached
      · rw [atEnd, Array.getElem?_size] at found
        cases found
      · exact reached entry found
    have beyond := apart entry (Array.mem_of_getElem? found)
    rw [if_neg fun within => beyond ⟨reached, within⟩]

end CodeMap

/-! ## Characters -/

theorem toNat_le_lastCodePoint (c : Char) : c.toNat ≤ lastCodePoint := by
  have valid : c.toNat.isValidChar := c.valid
  rw [lastCodePoint]
  rcases valid with low | ⟨-, high⟩ <;> omega

/-- What is no code point stands for the character zero. -/
theorem toNat_ofNat (code : Nat) :
    (Char.ofNat code).toNat = code ∨ (Char.ofNat code).toNat = 0 := by
  by_cases valid : code.isValidChar
  · left
    rw [Char.ofNat, dif_pos valid]
    rfl
  · right
    rw [Char.ofNat, dif_neg valid]
    rfl

end Postal.Unicode
