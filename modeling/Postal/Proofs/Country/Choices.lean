import Mathlib.Data.List.Nodup
import Postal.Proofs.Country.Names

/-!
# Countries to choose from

The choices of a table name every country once: under its longest name, and in the order of names
without accents and case. While the table is gone through, the first name of every code is kept in a
map. Names are sorted before and after that, so neither the order of the pairs of the table nor the
order in which the map gives back its entries matters.
-/

namespace Postal.NameTable

/-- A pair offers a country to choose: it has a name, and its code has no digit and is not that of a
group. -/
structure Offers (pairs : List NamedCode) (entry : NamedCode) : Prop where
  listed : entry ∈ pairs
  named : entry.name ≠ ""
  noDigit : ∀ c ∈ entry.code.toList, c.isDigit = false
  noGroup : entry.code ∉ aggregateCodes

/-- Of the pairs that offer a country this one has the longest name, and of the longest ones the
least. -/
structure Foremost (pairs : List NamedCode) (entry : NamedCode) : Prop where
  offered : Offers pairs entry
  longest : ∀ other, Offers pairs other → other.code = entry.code →
    other.name.length < entry.name.length ∨
      other.name.length = entry.name.length ∧ entry.name ≤ other.name

def offered (table : NameTable) : List NamedCode :=
  table.entries.filter (isChoice ·.code)

def IsFirst (entries : List NamedCode) (entry : NamedCode) : Prop :=
  entries.find? (·.code == entry.code) = some entry

/-- What a map from codes to names holds after a list has been gone through, if a code that it holds
keeps its name. The order in which the map gives its entries is left open. -/
structure KeepsFirst (entries kept : List NamedCode) : Prop where
  once : (kept.map (·.code)).Nodup
  mem_iff : ∀ entry, entry ∈ kept ↔ IsFirst entries entry

theorem KeepsFirst.reverse {entries kept : List NamedCode} (keeps : KeepsFirst entries kept) :
    KeepsFirst entries kept.reverse := by
  refine ⟨?_, fun entry => by rw [List.mem_reverse, keeps.mem_iff]⟩
  rw [List.map_reverse]
  exact List.nodup_reverse.mpr keeps.once

theorem Foremost.unique {pairs : List NamedCode} {first second : NamedCode}
    (h : Foremost pairs first) (h' : Foremost pairs second) (same : first.code = second.code) :
    first = second := by
  have names : first.name = second.name := by
    have le := h.longest second h'.offered same.symm
    have ge := h'.longest first h.offered same
    rcases le with shorter | ⟨length, le⟩
    · omega
    · rcases ge with shorter | ⟨-, ge⟩
      · omega
      · exact String.le_antisymm le ge
  cases first
  cases second
  cases names
  cases same
  rfl

def inOrder (entries : List NamedCode) : List NamedCode :=
  ((entries.map fun entry => (place entry, entry)).mergeSort fun a b => a.1.precedes b.1).map (·.2)

theorem Place.precedes_iff (a b : Place) :
    a.precedes b = true ↔ a.key < b.key ∨ a.key = b.key ∧ a.code ≤ b.code := by
  unfold precedes
  split
  · rename_i same
    rw [decide_eq_true_iff, same]
    constructor
    · exact fun le => .inr ⟨rfl, le⟩
    · exact fun h => (h.resolve_left (String.lt_irrefl _)).2
  · rename_i other
    rw [decide_eq_true_iff]
    exact ⟨.inl, fun h => h.resolve_right fun same => other same.1⟩

theorem Place.precedes_trans (a b c : Place) (first : a.precedes b = true)
    (second : b.precedes c = true) : a.precedes c = true := by
  rw [precedes_iff] at *
  rcases first with before | ⟨same, before⟩
  · rcases second with before' | ⟨same, -⟩
    · exact .inl (String.lt_trans before before')
    · exact .inl (same ▸ before)
  · rcases second with before' | ⟨same', before'⟩
    · exact .inl (same ▸ before')
    · exact .inr ⟨same.trans same', String.le_trans before before'⟩

theorem Place.precedes_total (a b : Place) : (a.precedes b || b.precedes a) = true := by
  rw [Bool.or_eq_true, precedes_iff, precedes_iff]
  rcases Std.lt_trichotomy a.key b.key with before | same | after
  · exact .inl (.inl before)
  · rcases String.le_total a.code b.code with before | before
    · exact .inl (.inr ⟨same, before⟩)
    · exact .inr (.inr ⟨same.symm, before⟩)
  · exact .inr (.inl after)

end Postal.NameTable
