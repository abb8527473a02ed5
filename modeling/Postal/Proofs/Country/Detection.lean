import Mathlib.Data.List.Forall2
import Postal.Proofs.Country.Names
import Postal.Proofs.Parsing.Conservation

namespace Postal

open Unicode

/-- A text is a name, character by character and without regard to case. -/
def Writes (written name : List Char) : Prop :=
  List.Forall₂ (fun c d => equalIgnoringCase c d = true) written name

/-- A name stands at the start of a line, and no letter or number follows it, unless of a script
that does not part words. -/
def Leads (name line : List Char) : Prop :=
  ∃ written after, line = written ++ after ∧ Writes written name ∧
    ∀ c ∈ after.head?, ¬ (isAlphanumeric c = true ∧ isAsianCharacter c = false)

def Trails (name line : List Char) : Prop :=
  ∃ before written, line = before ++ written ∧ Writes written name ∧
    ∀ c ∈ before.getLast?, isWhitespace c = true

def Names (fragments : List (List Char)) (name : String) : Prop :=
  (∃ first ∈ fragments.head?, Leads name.toList first) ∨
    ∃ last ∈ fragments.getLast?, Trails name.toList last

theorem Writes.length_eq {written name : List Char} (h : Writes written name) :
    written.length = name.length :=
  List.Forall₂.length_eq h

theorem startsWith?_eq_some_iff {text name after : List Char} :
    startsWith? text name = some after ↔
      ∃ written, text = written ++ after ∧ Writes written name := by
  constructor
  · intro h
    induction name generalizing text with
    | nil =>
      cases text <;> cases h <;> exact ⟨[], rfl, .nil⟩
    | cons d name ih =>
      cases text with
      | nil => cases h
      | cons c text =>
        rw [startsWith?] at h
        split at h
        · rename_i same
          obtain ⟨written, rfl, writes⟩ := ih h
          exact ⟨c :: written, rfl, .cons same writes⟩
        · cases h
  · rintro ⟨written, rfl, writes⟩
    induction writes with
    | nil => cases after <;> rfl
    | cons same writes ih => rw [List.cons_append, startsWith?, if_pos same, ih]

theorem endsWith?_eq_some_iff {text name before : List Char} :
    endsWith? text name = some before ↔
      ∃ written, text = before ++ written ∧ Writes written name := by
  rw [endsWith?, Option.map_eq_some_iff]
  constructor
  · rintro ⟨after, found, rfl⟩
    obtain ⟨written, split, writes⟩ := startsWith?_eq_some_iff.mp found
    refine ⟨written.reverse, ?_, ?_⟩
    · rw [← List.reverse_append, ← split, List.reverse_reverse]
    · rw [Writes, ← List.forall₂_reverse_iff, List.reverse_reverse]
      exact writes
  · rintro ⟨written, rfl, writes⟩
    refine ⟨before.reverse, startsWith?_eq_some_iff.mpr ⟨written.reverse, ?_, ?_⟩,
      List.reverse_reverse before⟩
    · exact List.reverse_append
    · exact List.forall₂_reverse_iff.mpr writes

theorem continuesWord_eq_false_iff {after : List Char} : continuesWord after = false ↔
    ∀ c ∈ after.head?, ¬ (isAlphanumeric c = true ∧ isAsianCharacter c = false) := by
  cases after with
  | nil => simp [continuesWord]
  | cons c after => simp [continuesWord]

theorem endsBlank_iff {before : List Char} : endsBlank before = true ↔
    ∀ c ∈ before.getLast?, isWhitespace c = true := by
  rw [endsBlank]
  cases before.getLast? with
  | none => simp
  | some c => simp

theorem leading?_eq_some_iff {line name after : List Char} : leading? line name = some after ↔
    ∃ written, line = written ++ after ∧ Writes written name ∧
      ∀ c ∈ after.head?, ¬ (isAlphanumeric c = true ∧ isAsianCharacter c = false) := by
  rw [leading?, Option.filter_eq_some_iff, startsWith?_eq_some_iff, Bool.not_eq_true',
    continuesWord_eq_false_iff]
  constructor
  · rintro ⟨⟨written, split, writes⟩, apart⟩
    exact ⟨written, split, writes, apart⟩
  · rintro ⟨written, split, writes, apart⟩
    exact ⟨⟨written, split, writes⟩, apart⟩

theorem trailing?_eq_some_iff {line name before : List Char} : trailing? line name = some before ↔
    ∃ written, line = before ++ written ∧ Writes written name ∧
      ∀ c ∈ before.getLast?, isWhitespace c = true := by
  rw [trailing?, Option.filter_eq_some_iff, endsWith?_eq_some_iff, endsBlank_iff]
  constructor
  · rintro ⟨⟨written, split, writes⟩, apart⟩
    exact ⟨written, split, writes, apart⟩
  · rintro ⟨written, split, writes, apart⟩
    exact ⟨⟨written, split, writes⟩, apart⟩

theorem leads_iff {line name : List Char} :
    Leads name line ↔ ∃ after, leading? line name = some after := by
  simp only [leading?_eq_some_iff]
  exact exists_comm

theorem trails_iff {line name : List Char} :
    Trails name line ↔ ∃ before, trailing? line name = some before := by
  simp only [trailing?_eq_some_iff]
  exact Iff.rfl

namespace Sighting

def bytes (sighting : Sighting) (fragments : List (List Char)) : String.Pos.Raw × String.Pos.Raw :=
  let fragment := fragments[sighting.line]?.getD []
  ((String.ofList (fragment.take sighting.start)).rawEndPos,
    (String.ofList (fragment.take (sighting.start + sighting.length))).rawEndPos)

/-- A sighting holds exactly the characters that write a name in a fragment. The bytes between its
ends, which part characters, are those of what is written, and only these are cut out. -/
structure Shows (sighting : Sighting) (fragments : List (List Char)) (name : String)
    (before written after : List Char) : Prop where
  fragment : fragments[sighting.line]? = some (before ++ written ++ after)
  writes : Writes written name.toList
  start : sighting.start = before.length
  length : sighting.length = name.length
  text : sighting.text fragments = written
  begins : (sighting.bytes fragments).1.IsValid (String.ofList (before ++ written ++ after))
  ends : (sighting.bytes fragments).2.IsValid (String.ofList (before ++ written ++ after))
  covers : (String.ofList (before ++ written ++ after)).toByteArray.extract
      (sighting.bytes fragments).1.byteIdx (sighting.bytes fragments).2.byteIdx =
    (String.ofList written).toByteArray
  cut : sighting.cut fragments = fragments.set sighting.line (before ++ after)

theorem extract_middle (before middle after : String) :
    (before ++ middle ++ after).toByteArray.extract before.rawEndPos.byteIdx
      (before ++ middle).rawEndPos.byteIdx = middle.toByteArray := by
  rw [String.append_assoc, String.toByteArray_append, String.toByteArray_append,
    String.byteIdx_rawEndPos, String.byteIdx_rawEndPos, String.utf8ByteSize_append,
    ← String.size_toByteArray, ← String.size_toByteArray]
  have later := ByteArray.extract_append_size_add (a := before.toByteArray)
    (b := middle.toByteArray ++ after.toByteArray) (i := 0) (j := middle.toByteArray.size)
  rw [Nat.add_zero] at later
  rw [later, ByteArray.extract_append_eq_left rfl]

theorem shows_of_parts {fragments : List (List Char)} {line : Nat} {name code : String}
    {before written after : List Char}
    (fragment : fragments[line]? = some (before ++ written ++ after))
    (writes : Writes written name.toList) :
    (⟨line, before.length, name.toList.length, code⟩ : Sighting).Shows fragments name before written
      after := by
  have start : (before ++ written ++ after).take before.length = before := by
    rw [List.append_assoc, List.take_left]
  have stop : (before ++ written ++ after).take (before.length + name.toList.length) =
      before ++ written := by
    rw [← writes.length_eq, ← List.length_append, List.take_left]
  have bytes : (⟨line, before.length, name.toList.length, code⟩ : Sighting).bytes fragments =
      ((String.ofList before).rawEndPos, (String.ofList (before ++ written)).rawEndPos) := by
    rw [Sighting.bytes, fragment, Option.getD_some, start, stop]
  refine ⟨fragment, writes, rfl, String.length_toList, ?_, ?_, ?_, ?_, ?_⟩
  · rw [Sighting.text, fragment, Option.getD_some, ← writes.length_eq, List.append_assoc,
      List.drop_left, List.take_left]
  · rw [bytes, String.Pos.Raw.isValid_iff_exists_append]
    exact ⟨_, String.ofList (written ++ after), by rw [← String.ofList_append, List.append_assoc], rfl⟩
  · rw [bytes, String.Pos.Raw.isValid_iff_exists_append]
    exact ⟨_, String.ofList after, String.ofList_append, rfl⟩
  · rw [bytes, String.ofList_append, String.ofList_append]
    exact extract_middle _ _ _
  · rw [cut_eq_set fragment, cutFrom]
    dsimp only
    rw [start, ← writes.length_eq, ← List.length_append, List.drop_left]

end Sighting

inductive Seen (fragments : List (List Char)) (entry : NamedCode) (sighting : Sighting) : Prop
  | leading {first written after : List Char} (isFirst : fragments.head? = some first)
      (leads : Leads entry.name.toList first) (line : sighting.line = 0)
      (shows : sighting.Shows fragments entry.name [] written after)
      (code : sighting.code = entry.code)
  | trailing {first last before written : List Char} (isFirst : fragments.head? = some first)
      (leadsNot : ¬ Leads entry.name.toList first) (isLast : fragments.getLast? = some last)
      (trails : Trails entry.name.toList last) (line : sighting.line = fragments.length - 1)
      (shows : sighting.Shows fragments entry.name before written [])
      (code : sighting.code = entry.code)

theorem seen_of_sightingOf? {fragments : List (List Char)} {entry : NamedCode} {sighting : Sighting}
    (h : sightingOf? fragments entry = some sighting) : Seen fragments entry sighting := by
  unfold sightingOf? at h
  split at h
  · rename_i first last isFirst isLast
    dsimp only at h
    split at h
    · rename_i after leads
      cases h
      obtain ⟨written, rfl, writes, -⟩ := leading?_eq_some_iff.mp leads
      have there : fragments[0]? = some ([] ++ written ++ after) :=
        List.head?_eq_getElem? ▸ isFirst
      exact .leading isFirst (leads_iff.mpr ⟨after, leads⟩) rfl
        (Sighting.shows_of_parts there writes) rfl
    · rename_i leadsNot
      obtain ⟨before, trails, rfl⟩ := Option.map_eq_some_iff.mp h
      obtain ⟨written, rfl, writes, -⟩ := trailing?_eq_some_iff.mp trails
      have notLed : ¬ Leads entry.name.toList first := by
        intro leads
        obtain ⟨after, found⟩ := leads_iff.mp leads
        rw [leadsNot] at found
        cases found
      have there : fragments[fragments.length - 1]? = some (before ++ written ++ []) := by
        rw [← List.getLast?_eq_getElem?, isLast, List.append_nil]
      exact .trailing isFirst notLed isLast (trails_iff.mpr ⟨before, trails⟩) rfl
        (Sighting.shows_of_parts there writes) rfl
  · cases h

theorem names_iff {fragments : List (List Char)} {entry : NamedCode} :
    Names fragments entry.name ↔ ∃ sighting, sightingOf? fragments entry = some sighting := by
  constructor
  · intro named
    unfold sightingOf?
    split
    · rename_i first last isFirst isLast
      dsimp only
      split
      · exact ⟨_, rfl⟩
      · rename_i leadsNot
        rcases named with ⟨first', isFirst', leads⟩ | ⟨last', isLast', trails⟩
        · obtain rfl : first = first' := Option.some.inj (isFirst.symm.trans isFirst')
          obtain ⟨after, found⟩ := leads_iff.mp leads
          rw [leadsNot] at found
          cases found
        · obtain rfl : last = last' := Option.some.inj (isLast.symm.trans isLast')
          obtain ⟨before, found⟩ := trails_iff.mp trails
          exact ⟨_, by rw [found, Option.map_some]⟩
    · rename_i missing
      cases fragments with
      | nil => simp [Names] at named
      | cons first others =>
        exact absurd (List.getLast?_eq_some_getLast (List.cons_ne_nil _ _)) (missing _ _ rfl)
  · rintro ⟨sighting, found⟩
    cases seen_of_sightingOf? found with
    | leading isFirst leads => exact .inl ⟨_, isFirst, leads⟩
    | trailing _ _ isLast trails => exact .inr ⟨_, isLast, trails⟩

def Fits (pairs : List NamedCode) (fragments : List (List Char)) (entry : NamedCode) : Prop :=
  entry ∈ pairs ∧ entry.name ≠ "" ∧ Names fragments entry.name

/-- What is found in a table: of the entries whose names stand there one with the longest name, and
of these the least one. -/
structure Longest (pairs : List NamedCode) (fragments : List (List Char)) (entry : NamedCode) :
    Prop where
  fits : Fits pairs fragments entry
  first : ∀ other, Fits pairs fragments other →
    other.name.length < entry.name.length ∨
      other.name.length = entry.name.length ∧ entry.name ≤ other.name

theorem fits_iff {pairs : List NamedCode} {fragments : List (List Char)} {entry : NamedCode} :
    Fits pairs fragments entry ↔ entry ∈ (NameTable.ofPairs pairs).entries ∧
      ∃ sighting, sightingOf? fragments entry = some sighting := by
  rw [Fits, NameTable.mem_entries_ofPairs, names_iff, and_assoc, String.isEmpty_eq_false_iff]

theorem NameTable.exists_longest {pairs : List NamedCode} {fragments : List (List Char)}
    {sighting : Sighting} (h : (ofPairs pairs).findIn? fragments = some sighting) :
    ∃ entry, Longest pairs fragments entry ∧ Seen fragments entry sighting := by
  obtain ⟨before, entry, after, order, found, missed⟩ := List.findSome?_eq_some_iff.mp h
  have sorted := pairwise_entries_ofPairs pairs
  rw [order] at sorted
  refine ⟨entry, ⟨fits_iff.mpr ⟨by simp [order], sighting, found⟩, fun other fits => ?_⟩,
    seen_of_sightingOf? found⟩
  obtain ⟨mem, seen, fits⟩ := fits_iff.mp fits
  rw [order, List.mem_append, List.mem_cons] at mem
  rcases mem with earlier | rfl | later
  · rw [missed other earlier] at fits
    cases fits
  · exact .inr ⟨rfl, String.le_refl _⟩
  · have precedes := (List.pairwise_cons.mp (List.pairwise_append.mp sorted).2.1).1 other later
    rcases (NamedCode.precedes_iff entry other).mp precedes with longer | ⟨same, before⟩
    · exact .inl longer
    · exact .inr ⟨same.symm, before⟩

theorem NameTable.findIn?_eq_none_iff {pairs : List NamedCode} {fragments : List (List Char)} :
    (ofPairs pairs).findIn? fragments = none ↔ ∀ entry, ¬ Fits pairs fragments entry := by
  rw [findIn?, List.findSome?_eq_none_iff]
  constructor
  · intro missed entry fits
    obtain ⟨mem, sighting, found⟩ := fits_iff.mp fits
    rw [missed entry mem] at found
    cases found
  · intro unfit entry mem
    rw [Option.eq_none_iff_forall_ne_some]
    exact fun sighting found => unfit entry (fits_iff.mpr ⟨mem, sighting, found⟩)

/-- A search in tables of names finds a country just if some table lists a name that stands at the
start of the first fragment or at the end of the last one. The first table that does decides, and
its longest such name is what is found and can be cut out. -/
theorem findCountry_longest (tables : List (List NamedCode)) (fragments : List (List Char)) :
    ((findCountry fragments (tables.map NameTable.ofPairs)).isSome ↔
      ∃ pairs ∈ tables, ∃ entry, Fits pairs fragments entry) ∧
    ∀ sighting, findCountry fragments (tables.map NameTable.ofPairs) = some sighting →
      ∃ earlier pairs later entry, tables = earlier ++ pairs :: later ∧
        (∀ others ∈ earlier, ∀ other, ¬ Fits others fragments other) ∧
        Longest pairs fragments entry ∧ Seen fragments entry sighting := by
  rw [findCountry, List.findSome?_map]
  constructor
  · rw [List.findSome?_isSome_iff]
    refine exists_congr fun pairs => and_congr_right fun _ => ?_
    rw [Function.comp_apply, ← Option.ne_none_iff_isSome, Ne, NameTable.findIn?_eq_none_iff]
    push Not
    rfl
  · intro sighting found
    obtain ⟨earlier, pairs, later, split, here, missed⟩ := List.findSome?_eq_some_iff.mp found
    obtain ⟨entry, longest, seen⟩ := NameTable.exists_longest here
    exact ⟨earlier, pairs, later, entry, split,
      fun others mem => NameTable.findIn?_eq_none_iff.mp (missed others mem), longest, seen⟩

theorem findCountry_longest_america :
    let names : List NamedCode := [⟨"America", "US"⟩, ⟨"United States of America", "US"⟩]
    let fragments := ["Boston MA 02110".toList, "UNITED STATES OF AMERICA".toList]
    let sighting : Sighting := ⟨1, 0, 24, "US"⟩
    findCountry fragments ([[⟨"Peru", "PE"⟩], names].map NameTable.ofPairs) = some sighting ∧
      ∃ earlier pairs later entry, [[⟨"Peru", "PE"⟩], names] = earlier ++ pairs :: later ∧
        (∀ others ∈ earlier, ∀ other, ¬ Fits others fragments other) ∧
        Longest pairs fragments entry ∧ Seen fragments entry sighting := by
  intro names fragments sighting
  have entries : (NameTable.ofPairs [⟨"Peru", "PE"⟩]).entries = [⟨"Peru", "PE"⟩] := by
    simp [NameTable.ofPairs]
  have peru : (NameTable.ofPairs [⟨"Peru", "PE"⟩]).findIn? fragments = none := by
    rw [NameTable.findIn?, entries]
    decide +kernel
  have america : (NameTable.ofPairs names).findIn? fragments = some sighting := by
    refine NameTable.findIn?_ofPairs ⟨"United States of America", "US"⟩ ?_ ?_ ?_ ?_
    all_goals decide +kernel
  have found : findCountry fragments ([[⟨"Peru", "PE"⟩], names].map NameTable.ofPairs) =
      some sighting := by
    rw [List.map_cons, List.map_singleton, findCountry, List.findSome?_cons, peru]
    exact findCountry_of_findIn? america []
  exact ⟨found, (findCountry_longest _ _).2 _ found⟩

end Postal
