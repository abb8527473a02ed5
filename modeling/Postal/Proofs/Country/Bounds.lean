import Postal.Proofs.Country.Detection
import Postal.Proofs.Text.Bytes

namespace Postal

open Unicode

def prefixEnd? (offset : Nat) : List Char → List Char → Option Nat
  | _, [] => some offset
  | [], _ :: _ => none
  | c :: text, d :: name =>
    if equalIgnoringCase c d then prefixEnd? (offset + c.utf8Size) text name else none

def suffixStartFrom? (offset : Nat) : List Char → List Char → Option Nat
  | _, [] => some offset
  | [], _ :: _ => none
  | c :: text, d :: name =>
    if equalIgnoringCase c d then suffixStartFrom? (offset - c.utf8Size) text name else none

def suffixStart? (text name : List Char) : Option Nat :=
  suffixStartFrom? (byteLength text) text.reverse name.reverse

theorem prefixEnd?_eq (offset : Nat) (text name : List Char) :
    prefixEnd? offset text name = (startsWith? text name).map fun after =>
      offset + byteLength text - byteLength after := by
  induction name generalizing offset text with
  | nil => cases text <;> simp [prefixEnd?, startsWith?]
  | cons d name ih =>
    cases text with
    | nil => rfl
    | cons c text =>
      rw [prefixEnd?, startsWith?]
      split
      · rw [ih, byteLength_cons, Nat.add_assoc]
      · rfl

theorem suffixStartFrom?_eq (text name : List Char) :
    suffixStartFrom? (byteLength text) text name = (startsWith? text name).map byteLength := by
  induction name generalizing text with
  | nil => cases text <;> rfl
  | cons d name ih =>
    cases text with
    | nil => rfl
    | cons c text =>
      rw [suffixStartFrom?, startsWith?]
      split
      · rw [byteLength_cons, Nat.add_sub_cancel_left, ih]
      · rfl

theorem suffixStart?_eq (text name : List Char) :
    suffixStart? text name = (endsWith? text name).map byteLength := by
  rw [suffixStart?, ← byteLength_reverse text, suffixStartFrom?_eq, endsWith?, Option.map_map]
  congr 1
  funext after
  exact (byteLength_reverse after).symm

theorem prefixEnd?_of_startsWith? {text name after : List Char}
    (starts : startsWith? text name = some after) :
    ∃ written, text = written ++ after ∧ Writes written name ∧
      prefixEnd? 0 text name = some (byteLength written) := by
  obtain ⟨written, rfl, writes⟩ := startsWith?_eq_some_iff.mp starts
  refine ⟨written, rfl, writes, ?_⟩
  rw [prefixEnd?_eq, starts, byteLength_append]
  simp

theorem suffixStart?_of_endsWith? {text name before : List Char}
    (ends : endsWith? text name = some before) :
    ∃ written, text = before ++ written ∧ Writes written name ∧
      suffixStart? text name = some (byteLength before) := by
  obtain ⟨written, rfl, writes⟩ := endsWith?_eq_some_iff.mp ends
  refine ⟨written, rfl, writes, ?_⟩
  rw [suffixStart?_eq, ends]
  rfl

namespace Checked

def leadingEnd (fragment name : List Char) : Checked (Option Nat) :=
  match prefixEnd? 0 fragment name with
  | none => .ok none
  | some stop => do
    let rest ← after fragment stop
    return if continuesWord rest then none else some stop

def trailingStart (fragment name : List Char) : Checked (Option Nat) :=
  match suffixStart? fragment name with
  | none => .ok none
  | some start => do
    let before ← upTo fragment start
    return if endsBlank before then some start else none

theorem leadingEnd_eq (fragment name : List Char) :
    leadingEnd fragment name = .ok ((leading? fragment name).map fun rest =>
      byteLength fragment - byteLength rest) := by
  rw [leadingEnd, leading?]
  cases starts : startsWith? fragment name with
  | none =>
    rw [prefixEnd?_eq, starts]
    rfl
  | some rest =>
    obtain ⟨written, rfl, -, stop⟩ := prefixEnd?_of_startsWith? starts
    cases continues : continuesWord rest <;> simp [stop, after_append, continues]

theorem trailingStart_eq (fragment name : List Char) :
    trailingStart fragment name = .ok ((trailing? fragment name).map byteLength) := by
  rw [trailingStart, trailing?]
  cases ends : endsWith? fragment name with
  | none =>
    rw [suffixStart?_eq, ends]
    rfl
  | some before =>
    obtain ⟨written, rfl, -, start⟩ := suffixStart?_of_endsWith? ends
    cases blank : endsBlank before <;> simp [start, upTo_append, blank]

end Checked

structure ByteSighting where
  line : Nat
  start : Nat
  stop : Nat
  code : String
deriving DecidableEq, Repr

namespace ByteSighting

def text (sighting : ByteSighting) (fragments : List (List Char)) : Checked (List Char) := do
  let fragment ← Checked.item fragments sighting.line
  Checked.slice fragment sighting.start sighting.stop

def cut (sighting : ByteSighting) (fragments : List (List Char)) : Checked (List (List Char)) := do
  let fragment ← Checked.item fragments sighting.line
  let rest ← Checked.cutOut fragment sighting.start sighting.stop
  Checked.replace fragments sighting.line rest

end ByteSighting

def sightingInBytes (first last : List Char) (lastIndex : Nat) (entry : NamedCode) :
    Checked (Option ByteSighting) := do
  match ← Checked.leadingEnd first entry.name.toList with
  | some stop => return some ⟨0, 0, stop, entry.code⟩
  | none =>
    match ← Checked.trailingStart last entry.name.toList with
    | some start => return some ⟨lastIndex, start, byteLength last, entry.code⟩
    | none => return none

def NameTable.findInBytes (table : NameTable) (fragments : List (List Char)) :
    Checked (Option ByteSighting) :=
  match fragments.head? with
  | none => .ok none
  | some first => do
    let lastIndex ← Checked.predecessor fragments.length
    let last ← Checked.item fragments lastIndex
    table.entries.findSomeM? (sightingInBytes first last lastIndex)

def findCountryInBytes (fragments : List (List Char)) (tables : List NameTable) :
    Checked (Option ByteSighting) :=
  tables.findSomeM? (·.findInBytes fragments)

def Sighting.inBytes (sighting : Sighting) (fragments : List (List Char)) : ByteSighting :=
  let fragment := fragments[sighting.line]?.getD []
  ⟨sighting.line, byteLength (fragment.take sighting.start),
    byteLength (fragment.take (sighting.start + sighting.length)), sighting.code⟩

section Search

variable {fragments : List (List Char)}

theorem Sighting.inBytes_eq {sighting : Sighting} {before written after : List Char}
    (fragment : fragments[sighting.line]? = some (before ++ written ++ after))
    (start : sighting.start = before.length) (length : sighting.length = written.length) :
    sighting.inBytes fragments =
      ⟨sighting.line, byteLength before, byteLength (before ++ written), sighting.code⟩ := by
  rw [inBytes, fragment, start, length, ← List.length_append]
  simp only [Option.getD_some, List.take_left]
  rw [List.append_assoc, List.take_left]

theorem sightingInBytes_eq {first last : List Char} (isFirst : fragments.head? = some first)
    (isLast : fragments.getLast? = some last) (entry : NamedCode) :
    sightingInBytes first last (fragments.length - 1) entry =
      .ok ((sightingOf? fragments entry).map (·.inBytes fragments)) := by
  rw [sightingInBytes, sightingOf?, isFirst, isLast, Checked.leadingEnd_eq]
  cases leads : leading? first entry.name.toList with
  | some rest =>
    obtain ⟨written, rfl, writes, -⟩ := leading?_eq_some_iff.mp leads
    have there : fragments[0]? = some ([] ++ written ++ rest) := List.head?_eq_getElem? ▸ isFirst
    have bytes := @Sighting.inBytes_eq _ ⟨0, 0, entry.name.toList.length, entry.code⟩ _ _ _ there
      rfl writes.length_eq.symm
    simp [leads, bytes]
  | none =>
    rw [Checked.trailingStart_eq]
    cases trails : trailing? last entry.name.toList with
    | none => simp [leads, trails]
    | some before =>
      obtain ⟨written, rfl, writes, -⟩ := trailing?_eq_some_iff.mp trails
      have there : fragments[fragments.length - 1]? = some (before ++ written ++ []) := by
        rw [List.append_nil, ← List.getLast?_eq_getElem?, isLast]
      have bytes := @Sighting.inBytes_eq _
        ⟨fragments.length - 1, before.length, entry.name.toList.length, entry.code⟩ _ _ _ there
        rfl writes.length_eq.symm
      simp [leads, trails, bytes]

theorem NameTable.findInBytes_eq (table : NameTable) (fragments : List (List Char)) :
    table.findInBytes fragments =
      .ok ((table.findIn? fragments).map (·.inBytes fragments)) := by
  cases fragments with
  | nil =>
    have nothing : table.findIn? [] = none := List.findSome?_eq_none_iff.mpr fun _ _ => rfl
    rw [nothing]
    rfl
  | cons first others =>
    have isLast := List.getLast?_eq_some_getLast (List.cons_ne_nil first others)
    have there := List.getLast?_eq_getElem? ▸ isLast
    rw [findInBytes, findIn?, List.head?_cons]
    dsimp only
    rw [Checked.predecessor_eq_ok (List.length_cons ▸ others.length.succ_ne_zero), Checked.ok_bind,
      Checked.item_eq_ok there, Checked.ok_bind,
      Checked.findSomeM?_eq_ok fun entry _ => sightingInBytes_eq rfl isLast entry,
      List.map_findSome?]
    rfl

theorem findCountryInBytes_eq (fragments : List (List Char)) (tables : List NameTable) :
    findCountryInBytes fragments tables =
      .ok ((findCountry fragments tables).map (·.inBytes fragments)) := by
  rw [findCountryInBytes, Checked.findSomeM?_eq_ok fun table _ => table.findInBytes_eq fragments,
    findCountry, List.map_findSome?]
  rfl

end Search

theorem exists_shows {fragments : List (List Char)} {tables : List NameTable}
    {sighting : Sighting} (found : findCountry fragments tables = some sighting) :
    ∃ name before written after, sighting.Shows fragments name before written after := by
  obtain ⟨table, -, found⟩ := List.exists_of_findSome?_eq_some found
  obtain ⟨entry, -, found⟩ := List.exists_of_findSome?_eq_some found
  cases seen_of_sightingOf? found with
  | leading _ _ _ shows => exact ⟨_, _, _, _, shows⟩
  | trailing _ _ _ _ _ shows => exact ⟨_, _, _, _, shows⟩

namespace Sighting.Shows

variable {sighting : Sighting} {fragments : List (List Char)} {name : String}
  {before written after : List Char}

theorem inBytes (shows : sighting.Shows fragments name before written after) :
    sighting.inBytes fragments =
      ⟨sighting.line, byteLength before, byteLength (before ++ written), sighting.code⟩ :=
  Sighting.inBytes_eq shows.fragment shows.start <| by
    rw [shows.length, shows.writes.length_eq, String.length_toList]

theorem text_inBytes (shows : sighting.Shows fragments name before written after) :
    (sighting.inBytes fragments).text fragments = .ok (sighting.text fragments) := by
  rw [shows.inBytes, ByteSighting.text, Checked.item_eq_ok shows.fragment, Checked.ok_bind,
    Checked.slice_append, shows.text]

theorem cut_inBytes (shows : sighting.Shows fragments name before written after) :
    (sighting.inBytes fragments).cut fragments = .ok (sighting.cut fragments) := by
  have lt : sighting.line < fragments.length := (List.getElem?_eq_some_iff.mp shows.fragment).1
  rw [shows.inBytes, ByteSighting.cut, Checked.item_eq_ok shows.fragment, Checked.ok_bind,
    Checked.cutOut_append, Checked.ok_bind, Checked.replace_eq_ok lt, shows.cut]

end Sighting.Shows

end Postal
