import Mathlib.Data.List.TakeWhile
import Postal.Address.Basic
import Postal.Proofs.Text.Spacing

namespace Postal

open Unicode

theorem cleanValue_of_filled {text : List Char} (filled : trim text ≠ []) :
    cleanValue (some (String.ofList text)) = some (String.ofList (trim text)) := by
  simp [cleanValue, trimText, filled]

theorem cleanValue_of_visible {text : List Char} (visible : ∃ c ∈ text, isWhitespace c = false) :
    ∃ kept, cleanValue (some (String.ofList text)) = some kept :=
  ⟨_, cleanValue_of_filled (trim_ne_nil visible)⟩

theorem cleanValue_eq_self {text : String} (filled : text ≠ "")
    (trimmed : trim text.toList = text.toList) : cleanValue (some text) = some text := by
  have visible : trim text.toList ≠ [] := by simpa [trimmed] using filled
  have kept := cleanValue_of_filled visible
  rwa [trimmed, String.ofList_toList] at kept

theorem eq_of_cleanValue {value : Option String} {kept : String} (h : cleanValue value = some kept) :
    ∃ text, value = some text ∧ kept = trimText text ∧ kept.isEmpty = false := by
  obtain ⟨made, filled⟩ := Option.filter_eq_some_iff.mp h
  obtain ⟨text, given, rfl⟩ := Option.map_eq_some_iff.mp made
  exact ⟨text, given, rfl, by simpa using filled⟩

theorem trim_of_cleanValue {value : Option String} {kept : String}
    (h : cleanValue value = some kept) : trim kept.toList = kept.toList := by
  obtain ⟨text, -, rfl, -⟩ := eq_of_cleanValue h
  rw [trimText, String.toList_ofList, trim_trim]

@[simp] theorem cleanValue_cleanValue (value : Option String) :
    cleanValue (cleanValue value) = cleanValue value := by
  cases kept : cleanValue value with
  | none => rfl
  | some text =>
    obtain ⟨-, -, -, filled⟩ := eq_of_cleanValue kept
    exact cleanValue_eq_self (by simpa using filled) (trim_of_cleanValue kept)

theorem trim_eq_nil_iff {text : List Char} : trim text = [] ↔ isBlank text = true := by
  rw [isBlank, List.all_eq_true]
  constructor
  · intro empty c mem
    by_contra shown
    exact trim_ne_nil ⟨c, mem, by simpa using shown⟩ empty
  · intro blank
    have nothing : trimStart text = [] := List.dropWhile_eq_nil_iff.mpr blank
    rw [trim, nothing]
    rfl

def filledValue (value : Option String) : Option String :=
  (value.filter fun text => ! isBlank text.toList).map trimText

theorem cleanValue_eq (value : Option String) : cleanValue value = filledValue value := by
  cases value with
  | none => rfl
  | some text =>
    by_cases blank : isBlank text.toList = true
    · simp [cleanValue, filledValue, trimText, Option.filter, blank, trim_eq_nil_iff.mpr blank]
    · have filled : trim text.toList ≠ [] := fun empty => blank (trim_eq_nil_iff.mp empty)
      simp [cleanValue, filledValue, trimText, Option.filter, blank, filled]

end Postal
