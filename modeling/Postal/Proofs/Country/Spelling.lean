import Postal.Proofs.Country.Detection
import Postal.Proofs.Unicode.Lowercase

/-!
# Names that are spelled otherwise

The country of a field is looked up by the lowercase form of the whole name. In a text the name of a
country is compared character by character. Both give the code of the first name of a table, longest
names first, that is found so. They agree but for characters whose lowercase form is no matter of
single characters.

* `NameTable.FirstCode`: the code of the first name that has a property.
* `findCountry_whole_iff`: when a search finds a name that is all of a text.
* `codeFor?_iff_findCountry`: when the country of a field and that of a text are the same.
-/

namespace Postal

open Unicode

namespace NameTable

def FirstCode (table : NameTable) (property : List Char → Prop) (code : String) : Prop :=
  ∃ earlier entry later, table.entries = earlier ++ entry :: later ∧
    property entry.name.toList ∧ (∀ other ∈ earlier, ¬ property other.name.toList) ∧
    entry.code = code

theorem firstCode_congr {table : NameTable} {property other : List Char → Prop}
    (same : ∀ entry ∈ table.entries, property entry.name.toList ↔ other entry.name.toList)
    {code : String} : table.FirstCode property code ↔ table.FirstCode other code := by
  refine exists_congr fun earlier => exists_congr fun entry => exists_congr fun later =>
    and_congr_right fun split => ?_
  rw [split] at same
  refine and_congr (same entry (by simp)) (and_congr_left' (forall₂_congr fun named mem => ?_))
  exact not_congr (same named (by simp [mem]))

theorem codeFor?_eq_some_iff {table : NameTable} {name code : String}
    (trimmed : trim name.toList = name.toList) : table.codeFor? name = some code ↔
      table.FirstCode (fun other => lookupKey other = lookupKey name.toList) code := by
  rw [codeFor?, trimmed, Option.map_eq_some_iff]
  constructor
  · rintro ⟨entry, found, rfl⟩
    obtain ⟨same, earlier, later, split, missed⟩ := List.find?_eq_some_iff_append.mp found
    exact ⟨earlier, entry, later, split, by simpa using same,
      fun other mem => by simpa using missed other mem, rfl⟩
  · rintro ⟨earlier, entry, later, split, same, missed, rfl⟩
    refine ⟨entry, List.find?_eq_some_iff_append.mpr ⟨by simpa using same, earlier, later, split,
      fun other mem => by simpa using missed other mem⟩, rfl⟩

end NameTable

theorem sightingOf?_of_writes {text : List Char} {entry : NamedCode}
    (writes : Writes text entry.name.toList) :
    sightingOf? [text] entry = some ⟨0, 0, text.length, entry.code⟩ := by
  have leads : leading? text entry.name.toList = some [] :=
    leading?_eq_some_iff.mpr ⟨text, (List.append_nil text).symm, writes, nofun⟩
  simp [sightingOf?, leads, writes.length_eq]

theorem writes_of_sightingOf? {text : List Char} {entry : NamedCode} {sighting : Sighting}
    (seen : sightingOf? [text] entry = some sighting)
    (long : text.length ≤ entry.name.toList.length) : Writes text entry.name.toList := by
  have whole : ∀ {before written after : List Char}, text = before ++ written ++ after →
      Writes written entry.name.toList → Writes text entry.name.toList := by
    intro before written after split writes
    have length := writes.length_eq
    have total := congrArg List.length split
    rw [List.length_append, List.length_append] at total
    obtain rfl : before = [] := List.eq_nil_of_length_eq_zero (by omega)
    obtain rfl : after = [] := List.eq_nil_of_length_eq_zero (by omega)
    rwa [split, List.nil_append, List.append_nil]
  cases seen_of_sightingOf? seen with
  | leading isFirst leads line shows code =>
    have fragment := shows.fragment
    rw [line] at fragment
    exact whole (Option.some.inj fragment) shows.writes
  | trailing isFirst leadsNot isLast trails line shows code =>
    have fragment := shows.fragment
    rw [line] at fragment
    exact whole (Option.some.inj fragment) shows.writes

theorem findCountry_whole_iff {pairs : List NamedCode} {text : List Char} {code : String} :
    findCountry [text] [.ofPairs pairs] = some ⟨0, 0, text.length, code⟩ ↔
      (NameTable.ofPairs pairs).FirstCode (Writes text) code := by
  have alone : findCountry [text] [.ofPairs pairs] = (NameTable.ofPairs pairs).findIn? [text] := by
    simp [findCountry]
  rw [alone, NameTable.findIn?, List.findSome?_eq_some_iff]
  constructor
  · rintro ⟨earlier, entry, later, split, seen, missed⟩
    obtain ⟨long, same⟩ : text.length = entry.name.toList.length ∧ code = entry.code := by
      rw [String.length_toList]
      cases seen_of_sightingOf? seen with
      | leading _ _ _ shows same => exact ⟨shows.length, same⟩
      | trailing _ _ _ _ _ shows same => exact ⟨shows.length, same⟩
    refine ⟨earlier, entry, later, split, writes_of_sightingOf? seen long.le, ?_, same.symm⟩
    intro other mem writes
    have found := sightingOf?_of_writes writes
    rw [missed other mem] at found
    cases found
  · rintro ⟨earlier, entry, later, split, writes, missed, rfl⟩
    refine ⟨earlier, entry, later, split, sightingOf?_of_writes writes, fun other mem => ?_⟩
    have sorted := NameTable.pairwise_entries_ofPairs pairs
    rw [split] at sorted
    have precedes := (List.pairwise_append.mp sorted).2.2 other mem entry List.mem_cons_self
    have long : text.length ≤ other.name.toList.length := by
      rw [writes.length_eq]
      simp only [String.length_toList]
      rcases (NamedCode.precedes_iff other entry).mp precedes with longer | ⟨same, -⟩ <;> omega
    rw [Option.eq_none_iff_forall_ne_some]
    exact fun sighting seen => missed other mem (writes_of_sightingOf? seen long)

/-- The country of a field and the country that a text names from its first to its last character
are the same, in any table, just if the first name of the same lowercase form and the first name that
the text writes character by character stand for the same. So it is unless both the text and a name
have a sigma, a capital I with a dot or a combining dot. -/
theorem codeFor?_iff_findCountry (pairs : List NamedCode) (text : String)
    (trimmed : trim text.toList = text.toList) :
    ((∀ code, (NameTable.ofPairs pairs).codeFor? text = some code ↔
        findCountry [text.toList] [.ofPairs pairs] = some ⟨0, 0, text.length, code⟩) ↔
      ∀ code, (NameTable.ofPairs pairs).FirstCode
          (fun name => lowercaseText name = lowercaseText text.toList) code ↔
        (NameTable.ofPairs pairs).FirstCode (Writes text.toList) code) ∧
    ((∀ entry ∈ pairs, Regular text.toList ∨ Regular entry.name.toList) →
      ∀ code, (NameTable.ofPairs pairs).codeFor? text = some code ↔
        findCountry [text.toList] [.ofPairs pairs] = some ⟨0, 0, text.length, code⟩) := by
  have exactly : ∀ code, ((NameTable.ofPairs pairs).codeFor? text = some code ↔
        findCountry [text.toList] [.ofPairs pairs] = some ⟨0, 0, text.length, code⟩) ↔
      ((NameTable.ofPairs pairs).FirstCode
          (fun name => lowercaseText name = lowercaseText text.toList) code ↔
        (NameTable.ofPairs pairs).FirstCode (Writes text.toList) code) := by
    intro code
    rw [NameTable.codeFor?_eq_some_iff trimmed, ← String.length_toList, findCountry_whole_iff]
    rfl
  refine ⟨forall_congr' exactly, fun regular code => (exactly code).mpr ?_⟩
  refine NameTable.firstCode_congr fun entry mem => ?_
  have listed := (NameTable.mem_entries_ofPairs.mp mem).1
  rw [eq_comm, lowercaseText_eq_iff (regular entry listed)]
  simp only [Writes, equalIgnoringCase_eq, beq_iff_eq]

theorem codeFor?_iff_findCountry_greece :
    let table := NameTable.ofPairs [⟨"Ελλάδα", "GR"⟩]
    table.codeFor? "ΕΛΛΆΔΑ" = some "GR" ∧
      findCountry ["ΕΛΛΆΔΑ".toList] [table] = some ⟨0, 0, 6, "GR"⟩ := by
  intro table
  have agree := (codeFor?_iff_findCountry [⟨"Ελλάδα", "GR"⟩] "ΕΛΛΆΔΑ" (by decide)).2
    (by decide) "GR"
  have entries : table.entries = [⟨"Ελλάδα", "GR"⟩] := by simp [table, NameTable.ofPairs]
  have code : table.codeFor? "ΕΛΛΆΔΑ" = some "GR" := by
    rw [NameTable.codeFor?, entries]
    decide +kernel
  exact ⟨code, agree.mp code⟩

/-- In capitals the last letter of Cyprus is a plain sigma, which comes to be final only in the
lowercase form of the whole name. -/
theorem codeFor?_cyprus :
    let table := NameTable.ofPairs [⟨"Κύπρος", "CY"⟩]
    splitFragments "ΚΎΠΡΟΣ".toList = ["ΚΎΠΡΟΣ".toList] ∧
      table.codeFor? "ΚΎΠΡΟΣ" = some "CY" ∧ findCountry ["ΚΎΠΡΟΣ".toList] [table] = none := by
  intro table
  have entries : table.entries = [⟨"Κύπρος", "CY"⟩] := by simp [table, NameTable.ofPairs]
  have final : startsCased ['Ο', 'Ρ', 'Π', 'Ύ', 'Κ'] = true := by
    have joins : isCaseIgnorable 'Ο' = false := by
      rw [isCaseIgnorable_eq (by decide)]
      decide +kernel
    have casedLetter : isCased 'Ο' = true := by
      rw [isCased_eq (by decide)]
      decide +kernel
    rw [startsCased, List.dropWhile_cons_of_neg (by simp [joins])]
    exact casedLetter
  have key : NameTable.lookupKey "ΚΎΠΡΟΣ".toList = "κύπρος".toList := by
    have forms : lowercase 'Κ' = ['κ'] ∧ lowercase 'Ύ' = ['ύ'] ∧ lowercase 'Π' = ['π'] ∧
        lowercase 'Ρ' = ['ρ'] ∧ lowercase 'Ο' = ['ο'] := by
      decide +kernel
    have nothing : startsCased [] = false := rfl
    change lowercaseAfter [] ['Κ', 'Ύ', 'Π', 'Ρ', 'Ο', 'Σ'] = ['κ', 'ύ', 'π', 'ρ', 'ο', 'ς']
    simp [lowercaseAfter, forms, final, nothing]
  have trimmed : trim "ΚΎΠΡΟΣ".toList = "ΚΎΠΡΟΣ".toList := by decide
  refine ⟨by decide +kernel, ?_, ?_⟩
  · rw [NameTable.codeFor?, trimmed, key, entries]
    decide +kernel
  · rw [findCountry, List.findSome?_cons, NameTable.findIn?, entries]
    decide +kernel

end Postal
