import Postal.Country.Detection

namespace Postal

namespace NamedCode

theorem precedes_iff (a b : NamedCode) : a.precedes b = true ↔
    b.name.length < a.name.length ∨ a.name.length = b.name.length ∧ a.name ≤ b.name := by
  unfold precedes
  split
  · rename_i same
    simp [same]
  · rename_i other
    simp [other]

theorem precedes_trans (a b c : NamedCode) (first : a.precedes b = true)
    (second : b.precedes c = true) : a.precedes c = true := by
  rw [precedes_iff] at *
  rcases first with longer | ⟨same, before⟩
  · left
    omega
  · rcases second with longer | ⟨same', before'⟩
    · left
      omega
    · right
      exact ⟨same.trans same', String.le_trans before before'⟩

theorem precedes_total (a b : NamedCode) : (a.precedes b || b.precedes a) = true := by
  rw [Bool.or_eq_true, precedes_iff, precedes_iff]
  rcases Nat.lt_trichotomy a.name.length b.name.length with longer | same | longer
  · exact .inr (.inl longer)
  · rcases String.le_total a.name b.name with before | before
    · exact .inl (.inr ⟨same, before⟩)
    · exact .inr (.inr ⟨same.symm, before⟩)
  · exact .inl (.inl longer)

end NamedCode

namespace NameTable

theorem mem_entries_ofPairs {pairs : List NamedCode} {entry : NamedCode} :
    entry ∈ (ofPairs pairs).entries ↔ entry ∈ pairs ∧ entry.name.isEmpty = false := by
  simp [ofPairs, List.mem_mergeSort]

theorem pairwise_entries_ofPairs (pairs : List NamedCode) :
    (ofPairs pairs).entries.Pairwise fun a b => a.precedes b = true :=
  List.pairwise_mergeSort NamedCode.precedes_trans NamedCode.precedes_total _

theorem findIn?_ofPairs {pairs : List NamedCode} {fragments : List (List Char)}
    {sighting : Sighting} (entry : NamedCode) (listed : entry ∈ pairs)
    (filled : entry.name.isEmpty = false) (fits : sightingOf? fragments entry = some sighting)
    (first : ∀ other ∈ pairs, other.precedes entry = true →
      ∀ found ∈ sightingOf? fragments other, found = sighting) :
    (ofPairs pairs).findIn? fragments = some sighting := by
  obtain ⟨before, after, order⟩ := List.append_of_mem (mem_entries_ofPairs.mpr ⟨listed, filled⟩)
  have earlier : ∀ other ∈ before, other ∈ pairs ∧ other.precedes entry = true := by
    intro other mem
    have sorted := pairwise_entries_ofPairs pairs
    rw [order] at sorted
    refine ⟨?_, (List.pairwise_append.mp sorted).2.2 other mem entry List.mem_cons_self⟩
    exact (mem_entries_ofPairs.mp (order ▸ List.mem_append_left _ mem)).1
  rw [findIn?, order, List.findSome?_append]
  cases found : before.findSome? (sightingOf? fragments) with
  | none => rw [Option.none_or, List.findSome?_cons, fits]
  | some other =>
    obtain ⟨named, mem, seen⟩ := List.exists_of_findSome?_eq_some found
    obtain ⟨listed, precedes⟩ := earlier named mem
    rw [first named listed precedes other seen, Option.some_or]

end NameTable

theorem findCountry_of_findIn? {table : NameTable} {fragments : List (List Char)}
    {sighting : Sighting} (found : table.findIn? fragments = some sighting)
    (others : List NameTable) : findCountry fragments (table :: others) = some sighting := by
  rw [findCountry, List.findSome?_cons, found]

end Postal
